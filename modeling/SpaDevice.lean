import SpaDevice.Malformed
import SpaDevice.Transparent
import SpaDevice.Agreement
import SpaDevice.Cloak
import SpaDevice.Limiter
import SpaDevice.Verdict
import SpaDevice.Fragments
import SpaDevice.Flows
import SpaDevice.Pinhole
import SpaDevice.Lifecycle
import SpaDevice.Grants
import SpaDevice.Floor
import SpaDevice.Retry
import SpaDevice.Swap
import SpaDevice.Provision
import SpaDevice.Cache
import SpaDevice.Pull
import SpaDevice.Restart
import SpaDevice.Isolation
import SpaDevice.Keygen
import SpaDevice.Opening
import SpaDevice.Delivery
import SpaDevice.Revocation
import SpaDevice.Layers
import SpaDevice.Authority
import SpaDevice.Descriptor
import SpaDevice.Production
