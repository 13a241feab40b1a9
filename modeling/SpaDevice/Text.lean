import Mathlib.Data.List.DropRight
import SpaDevice.Dict

/-!
# SpaDevice.Text

Text files of `key=value` lines, as the standard library of the source reads
them: `str::lines`, `str::split_once`, `str::trim` and `str::parse` at an
unsigned type, over lists of characters.

`readEntries_renderEntries` is the round trip: what is written one entry a line
is read back, provided the keys and values are clean (`Clean`).
-/

namespace SpaDevice

/-! ## Lines -/

/-- A line without the carriage return before its line feed. -/
def stripCr (line : List Char) : List Char :=
  if line.getLast? = some '\r' then line.dropLast else line

/-- `str::lines` with the current line read as far as `cur`.  A last line needs no
line feed, and then keeps its carriage return. -/
def linesFrom (cur : List Char) : List Char → List (List Char)
  | [] => if cur = [] then [] else [cur]
  | c :: cs => if c = '\n' then stripCr cur :: linesFrom [] cs else linesFrom (cur ++ [c]) cs

def lines (text : List Char) : List (List Char) := linesFrom [] text

@[simp] theorem lines_nil : lines [] = [] := rfl

theorem stripCr_of_not_mem {line : List Char} (h : '\r' ∉ line) : stripCr line = line := by
  have hlast : line.getLast? ≠ some '\r' := fun hl => h (List.mem_of_getLast? hl)
  simp [stripCr, hlast]

theorem linesFrom_append {line : List Char} (h : '\n' ∉ line) (cur rest : List Char) :
    linesFrom cur (line ++ '\n' :: rest) = stripCr (cur ++ line) :: lines rest := by
  induction line generalizing cur with
  | nil => simp [linesFrom, lines]
  | cons c line ih =>
      have hc : c ≠ '\n' := fun hc => h (by simp [hc])
      have hline : '\n' ∉ line := fun hl => h (by simp [hl])
      simp [linesFrom, hc, ih hline]

/-- A line that is ended by a line feed comes first, the rest follows. -/
theorem lines_append {line : List Char} (h : '\n' ∉ line) (hcr : '\r' ∉ line) (rest : List Char) :
    lines (line ++ '\n' :: rest) = line :: lines rest := by
  rw [lines, linesFrom_append h, List.nil_append, stripCr_of_not_mem hcr]

/-! ## Splitting and trimming -/

/-- `str::split_once`: what stands before and after the first `sep`. -/
def splitOnce (sep : Char) : List Char → Option (List Char × List Char)
  | [] => none
  | c :: cs => if c = sep then some ([], cs) else (splitOnce sep cs).map fun p => (c :: p.1, p.2)

theorem splitOnce_append {sep : Char} {key : List Char} (h : sep ∉ key) (value : List Char) :
    splitOnce sep (key ++ sep :: value) = some (key, value) := by
  induction key with
  | nil => simp [splitOnce]
  | cons c key ih =>
      have hc : c ≠ sep := fun hc => h (by simp [hc])
      have hkey : sep ∉ key := fun hk => h (by simp [hk])
      simp [splitOnce, hc, ih hkey]

/-- `char::is_whitespace`: the Unicode property `White_Space`. -/
def isWhitespace (c : Char) : Bool :=
  let n := c.toNat
  (0x09 ≤ n && n ≤ 0x0D) || n == 0x20 || n == 0x85 || n == 0xA0 || n == 0x1680 ||
    (0x2000 ≤ n && n ≤ 0x200A) || n == 0x2028 || n == 0x2029 || n == 0x202F || n == 0x205F ||
    n == 0x3000

/-- `str::trim`. -/
def trim (cs : List Char) : List Char := (cs.dropWhile isWhitespace).rdropWhile isWhitespace

/-- There is no white space in the text. -/
def NoSpace (cs : List Char) : Prop := ∀ c ∈ cs, isWhitespace c = false

theorem NoSpace.newline {cs : List Char} (h : NoSpace cs) : '\n' ∉ cs := by
  intro hmem
  have := h _ hmem
  contradiction

theorem NoSpace.cr {cs : List Char} (h : NoSpace cs) : '\r' ∉ cs := by
  intro hmem
  have := h _ hmem
  contradiction

theorem dropWhile_of_all {p : Char → Bool} {ws : List Char} (h : ∀ c ∈ ws, p c = true)
    (cs : List Char) : (ws ++ cs).dropWhile p = cs.dropWhile p := by
  induction ws with
  | nil => rfl
  | cons c ws ih =>
      simp [h c (by simp), ih fun c' hc' => h c' (by simp [hc'])]

/-- White space around the text goes. -/
theorem trim_surrounded {ws cs ws' : List Char} (hws : ∀ c ∈ ws, isWhitespace c = true)
    (h : NoSpace cs) (hws' : ∀ c ∈ ws', isWhitespace c = true) : trim (ws ++ cs ++ ws') = cs := by
  cases cs with
  | nil =>
      have hall : ∀ c ∈ ws ++ ws', isWhitespace c = true := by
        intro c hc
        rcases List.mem_append.mp hc with hc | hc
        · exact hws c hc
        · exact hws' c hc
      have hdrop := dropWhile_of_all hall []
      rw [List.append_nil] at hdrop
      simp [trim, hdrop]
  | cons c cs =>
      have hc : isWhitespace c = false := h c (by simp)
      have hdrop : (ws ++ (c :: cs) ++ ws').dropWhile isWhitespace = c :: cs ++ ws' := by
        rw [List.append_assoc, dropWhile_of_all hws]
        simp [hc]
      have hself : (c :: cs).rdropWhile isWhitespace = c :: cs := by
        rw [List.rdropWhile_eq_self_iff]
        intro hne
        simp [h _ (List.getLast_mem hne)]
      have hback : ∀ c' ∈ ws'.reverse, isWhitespace c' = true :=
        fun c' hc' => hws' c' (List.mem_reverse.mp hc')
      rw [trim, hdrop, List.rdropWhile, List.reverse_append, dropWhile_of_all hback]
      exact hself

theorem trim_of_noSpace {cs : List Char} (h : NoSpace cs) : trim cs = cs := by
  simpa using @trim_surrounded [] cs [] (by simp) h (by simp)

/-! ## Numbers -/

/-- `str::parse` at an unsigned type of `2 ^ bits` values: an optional `+`, then
decimal digits whose value fits. -/
def parseUnsigned (bits : Nat) (cs : List Char) : Option Nat :=
  let digits := if cs.head? = some '+' then cs.tail else cs
  let value := Nat.ofDigitChars 10 digits 0
  if digits ≠ [] ∧ digits.all Char.isDigit ∧ value < 2 ^ bits then some value else none

theorem isDigit_toDigits {n : Nat} {c : Char} (h : c ∈ Nat.toDigits 10 n) : c.isDigit = true :=
  Nat.isDigit_of_mem_toDigits (by decide) (by decide) h

theorem isWhitespace_of_isDigit {c : Char} (h : c.isDigit = true) : isWhitespace c = false := by
  have hbounds : 48 ≤ c.toNat ∧ c.toNat ≤ 57 := by
    simpa [Char.isDigit, UInt32.le_iff_toNat_le] using h
  obtain ⟨hlo, hhi⟩ := hbounds
  simp [isWhitespace]
  omega

theorem noSpace_toDigits (n : Nat) : NoSpace (Nat.toDigits 10 n) :=
  fun _ h => isWhitespace_of_isDigit (isDigit_toDigits h)

/-- A number is read back from its decimal digits. -/
theorem parseUnsigned_toDigits {bits n : Nat} (h : n < 2 ^ bits) :
    parseUnsigned bits (Nat.toDigits 10 n) = some n := by
  have hplus : (Nat.toDigits 10 n).head? ≠ some '+' := by
    intro hhead
    have := isDigit_toDigits (List.mem_of_head? hhead)
    contradiction
  have hdigits : (Nat.toDigits 10 n).all Char.isDigit = true :=
    List.all_eq_true.mpr fun c hc => isDigit_toDigits hc
  simp [parseUnsigned, hplus, hdigits, Nat.toDigits_ne_nil, Nat.ofDigitChars_ten_toDigits, h]

/-! ## Files of entries -/

/-- The entry of a line, if it has a separator: key and value trimmed. -/
def entryOf (line : List Char) : Option (String × String) :=
  (splitOnce '=' line).map fun p => (String.ofList (trim p.1), String.ofList (trim p.2))

/-- The entries of a file, line by line. -/
def readEntries (text : String) : List (String × String) := (lines text.toList).filterMap entryOf

/-- An entry as a line. -/
def entryLine (e : String × String) : String := e.1 ++ "=" ++ e.2 ++ "\n"

/-- A file of entries. -/
def renderEntries (es : List (String × String)) : String := String.join (es.map entryLine)

/-- The key has no separator, and there is no white space in the entry. -/
structure Clean (e : String × String) : Prop where
  separator : '=' ∉ e.1.toList
  key : NoSpace e.1.toList
  value : NoSpace e.2.toList

theorem entryOf_of_clean {e : String × String} (h : Clean e) :
    entryOf (e.1.toList ++ '=' :: e.2.toList) = some e := by
  simp [entryOf, splitOnce_append h.separator, trim_of_noSpace h.key, trim_of_noSpace h.value]

theorem toList_renderEntries_cons (e : String × String) (es : List (String × String)) :
    (renderEntries (e :: es)).toList =
      (e.1.toList ++ '=' :: e.2.toList) ++ '\n' :: (renderEntries es).toList := by
  simp [renderEntries, entryLine, String.join_cons]

/-- **What is written one entry a line is read back.** -/
theorem readEntries_renderEntries {es : List (String × String)} (h : ∀ e ∈ es, Clean e) :
    readEntries (renderEntries es) = es := by
  induction es with
  | nil => rfl
  | cons e es ih =>
      have he := h e (by simp)
      have hnl : '\n' ∉ e.1.toList ++ '=' :: e.2.toList := by
        simp [he.key.newline, he.value.newline]
      have hcr : '\r' ∉ e.1.toList ++ '=' :: e.2.toList := by
        simp [he.key.cr, he.value.cr]
      rw [readEntries, toList_renderEntries_cons, lines_append hnl hcr, List.filterMap_cons,
        entryOf_of_clean he]
      exact congrArg (e :: ·) (ih fun e' he' => h e' (by simp [he']))

end SpaDevice
