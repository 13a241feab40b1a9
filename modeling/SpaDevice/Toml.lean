import Mathlib.Data.List.TakeWhile

/-!
# SpaDevice.Toml

TOML documents as their writer sees them: a list of lines, `render`ed one after the
other.

What the lines say is read off them: the entries before the first header are those of
the document itself, and the array of tables `name` has one table for each `[[name]]`,
which reaches to the next header (`blocks`).  So a block that is copied into a document
stays a block, whatever stands around it (`blocks_block`), and the entries of a
document may come in several pieces (`beforeHeader_append`).
-/

namespace SpaDevice

namespace Toml

inductive Value where
  | string (s : String)
  | integer (n : Nat)
  | boolean (b : Bool)
  | integers (ns : List Nat)
deriving DecidableEq

inductive Line where
  | blank
  | comment (text : String)
  | entry (key : String) (value : Value)
  | table (name : String)
  | arrayTable (name : String)
deriving DecidableEq

/-! ## Writing -/

/-- A string is written as it is: nothing in it is escaped. -/
def Value.render : Value → String
  | .string s => "\"" ++ s ++ "\""
  | .integer n => toString n
  | .boolean b => toString b
  | .integers ns => "[" ++ ", ".intercalate (ns.map toString) ++ "]"

def Line.render : Line → String
  | .blank => ""
  | .comment text => "# " ++ text
  | .entry key value => key ++ " = " ++ value.render
  | .table name => "[" ++ name ++ "]"
  | .arrayTable name => "[[" ++ name ++ "]]"

/-- A document, every line ended by a line feed. -/
def render (ls : List Line) : String := String.join (ls.map fun l => l.render ++ "\n")

theorem render_append (ls ls' : List Line) : render (ls ++ ls') = render ls ++ render ls' := by
  simp [render, String.join_append]

/-! ## What the lines say -/

def Line.isHeader : Line → Bool
  | .table _ | .arrayTable _ => true
  | _ => false

/-- No line of the piece opens a table. -/
def Flat (ls : List Line) : Prop := ∀ l ∈ ls, l.isHeader = false

instance (ls : List Line) : Decidable (Flat ls) :=
  inferInstanceAs (Decidable (∀ l ∈ ls, l.isHeader = false))

/-- The lines before the first header. -/
def beforeHeader (ls : List Line) : List Line := ls.takeWhile fun l => !l.isHeader

/-- The tables of the array `name`, in order, each by its lines. -/
def blocks (name : String) : List Line → List (List Line)
  | [] => []
  | .arrayTable n :: ls => if n = name then beforeHeader ls :: blocks name ls else blocks name ls
  | _ :: ls => blocks name ls

/-- The lines give the key this value and no other; with `none` they do not have the
key. -/
def Gives (ls : List Line) (key : String) (value : Option Value) : Prop :=
  ∀ v, .entry key v ∈ ls ↔ value = some v

theorem Gives.string_eq {ls : List Line} {key s s' : String}
    (h : Gives ls key (some (.string s))) (hmem : .entry key (.string s') ∈ ls) : s = s' :=
  Value.string.inj (Option.some.inj ((h _).mp hmem))

/-- A flat piece is part of what stands before the first header. -/
theorem beforeHeader_append {ls : List Line} (h : Flat ls) (rest : List Line) :
    beforeHeader (ls ++ rest) = ls ++ beforeHeader rest :=
  List.takeWhile_append_of_pos fun l hl => by simp [h l hl]

/-- Nothing behind a header stands before it. -/
theorem beforeHeader_append_header (ls : List Line) {header : Line} (h : header.isHeader = true)
    (rest : List Line) : beforeHeader (ls ++ header :: rest) = beforeHeader ls := by
  induction ls with
  | nil => simp [beforeHeader, h]
  | cons l ls ih =>
      cases hl : l.isHeader with
      | true => simp [beforeHeader, hl]
      | false => simpa [beforeHeader, hl] using ih

/-- A flat piece opens no table. -/
theorem blocks_flat_append (name : String) {ls : List Line} (h : Flat ls) (rest : List Line) :
    blocks name (ls ++ rest) = blocks name rest := by
  induction ls with
  | nil => rfl
  | cons l ls ih =>
      have htail := ih fun l' hl' => h l' (List.mem_cons_of_mem _ hl')
      have hl := h l List.mem_cons_self
      cases l with
      | blank => exact htail
      | comment text => exact htail
      | entry key value => exact htail
      | table n => contradiction
      | arrayTable n => contradiction

/-- At a header a document falls into two, and so do its tables. -/
theorem blocks_append_header (name : String) (ls : List Line) {header : Line}
    (h : header.isHeader = true) (rest : List Line) :
    blocks name (ls ++ header :: rest) = blocks name ls ++ blocks name (header :: rest) := by
  induction ls with
  | nil => rfl
  | cons l ls ih =>
      cases l with
      | blank => exact ih
      | comment text => exact ih
      | entry key value => exact ih
      | table n => exact ih
      | arrayTable n =>
          rw [List.cons_append, blocks, blocks, beforeHeader_append_header ls h, ih]
          split
          · rfl
          · rfl

/-- **A block stays a block**: its entries are those of one table, which comes behind
the tables before it and before the tables behind it. -/
theorem blocks_block (name : String) (before : List Line) {body : List Line} (h : Flat body)
    (after : List Line) :
    blocks name (before ++ .arrayTable name :: (body ++ after)) =
      blocks name before ++ (body ++ beforeHeader after) :: blocks name after := by
  rw [blocks_append_header name before rfl, blocks, if_pos rfl, beforeHeader_append h,
    blocks_flat_append name h]

end Toml

end SpaDevice
