import TokenSigner.Config.Descriptor
import TokenSigner.Text.Hex

namespace TokenSigner.SoftHsm2

def libraryPath : String := "/usr/lib/softhsm/libsofthsm2.so"

def signingMechanisms : List String :=
  ["CKM_RSA_PKCS", "CKM_RSA_X_509", "CKM_RSA_PKCS_PSS", "CKM_ECDSA"]

def descriptor (path : String) (slot : Option UInt64) (passwordSource : String) :
    ModuleDescriptor :=
  let slots := (slot.map fun id => { id := some (Text.hex id.toNat) : SlotDescriptor }).toList
  { name := "softhsm2"
    libraries := [{ path }]
    mechanismSets := [{ name := "signing", tokens := signingMechanisms }]
    mechanismFilters := [{ set := "signing" }]
    passwordSets := [{ slots, sources := [passwordSource] }]
    includeSlots := slots }

end TokenSigner.SoftHsm2
