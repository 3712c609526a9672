import TokenSigner.Text.Hex

namespace TokenSigner

abbrev Mechanism := UInt64

namespace Mechanism

def rsaPkcs : Mechanism := 0x0001

def rsaRaw : Mechanism := 0x0003

def rsaPss : Mechanism := 0x000D

def ecdsa : Mechanism := 0x1041

def vendorDefined : Mechanism := 0x80000000

def catalog : List (String × Mechanism) := [
  ("CKM_RSA_PKCS_KEY_PAIR_GEN", 0x0000),
  ("CKM_RSA_PKCS", 0x0001),
  ("CKM_RSA_9796", 0x0002),
  ("CKM_RSA_X_509", 0x0003),
  ("CKM_MD2_RSA_PKCS", 0x0004),
  ("CKM_MD5_RSA_PKCS", 0x0005),
  ("CKM_SHA1_RSA_PKCS", 0x0006),
  ("CKM_RIPEMD128_RSA_PKCS", 0x0007),
  ("CKM_RIPEMD160_RSA_PKCS", 0x0008),
  ("CKM_RSA_PKCS_OAEP", 0x0009),
  ("CKM_RSA_X9_31_KEY_PAIR_GEN", 0x000A),
  ("CKM_RSA_X9_31", 0x000B),
  ("CKM_SHA1_RSA_X9_31", 0x000C),
  ("CKM_RSA_PKCS_PSS", 0x000D),
  ("CKM_SHA1_RSA_PKCS_PSS", 0x000E),
  ("CKM_DSA_KEY_PAIR_GEN", 0x0010),
  ("CKM_DSA", 0x0011),
  ("CKM_DSA_SHA1", 0x0012),
  ("CKM_DSA_SHA224", 0x0013),
  ("CKM_DSA_SHA256", 0x0014),
  ("CKM_DSA_SHA384", 0x0015),
  ("CKM_DSA_SHA512", 0x0016),
  ("CKM_DSA_SHA3_224", 0x0018),
  ("CKM_DSA_SHA3_256", 0x0019),
  ("CKM_DSA_SHA3_384", 0x001A),
  ("CKM_DSA_SHA3_512", 0x001B),
  ("CKM_DH_PKCS_KEY_PAIR_GEN", 0x0020),
  ("CKM_DH_PKCS_DERIVE", 0x0021),
  ("CKM_SHA256_RSA_PKCS", 0x0040),
  ("CKM_SHA384_RSA_PKCS", 0x0041),
  ("CKM_SHA512_RSA_PKCS", 0x0042),
  ("CKM_SHA256_RSA_PKCS_PSS", 0x0043),
  ("CKM_SHA384_RSA_PKCS_PSS", 0x0044),
  ("CKM_SHA512_RSA_PKCS_PSS", 0x0045),
  ("CKM_SHA224_RSA_PKCS", 0x0046),
  ("CKM_SHA224_RSA_PKCS_PSS", 0x0047),
  ("CKM_SHA512_224", 0x0048),
  ("CKM_SHA512_256", 0x004C),
  ("CKM_SHA3_256_RSA_PKCS", 0x0060),
  ("CKM_SHA3_384_RSA_PKCS", 0x0061),
  ("CKM_SHA3_512_RSA_PKCS", 0x0062),
  ("CKM_SHA3_256_RSA_PKCS_PSS", 0x0063),
  ("CKM_SHA3_384_RSA_PKCS_PSS", 0x0064),
  ("CKM_SHA3_512_RSA_PKCS_PSS", 0x0065),
  ("CKM_SHA3_224_RSA_PKCS", 0x0066),
  ("CKM_SHA3_224_RSA_PKCS_PSS", 0x0067),
  ("CKM_SHA_1", 0x0220),
  ("CKM_SHA_1_HMAC", 0x0221),
  ("CKM_SHA256", 0x0250),
  ("CKM_SHA256_HMAC", 0x0251),
  ("CKM_SHA224", 0x0255),
  ("CKM_SHA224_HMAC", 0x0256),
  ("CKM_SHA384", 0x0260),
  ("CKM_SHA384_HMAC", 0x0261),
  ("CKM_SHA512", 0x0270),
  ("CKM_SHA512_HMAC", 0x0271),
  ("CKM_SHA3_256", 0x02B0),
  ("CKM_SHA3_256_HMAC", 0x02B1),
  ("CKM_SHA3_224", 0x02B5),
  ("CKM_SHA3_224_HMAC", 0x02B6),
  ("CKM_SHA3_384", 0x02C0),
  ("CKM_SHA3_384_HMAC", 0x02C1),
  ("CKM_SHA3_512", 0x02D0),
  ("CKM_SHA3_512_HMAC", 0x02D1),
  ("CKM_GENERIC_SECRET_KEY_GEN", 0x0350),
  ("CKM_EC_KEY_PAIR_GEN", 0x1040),
  ("CKM_ECDSA", 0x1041),
  ("CKM_ECDSA_SHA1", 0x1042),
  ("CKM_ECDSA_SHA224", 0x1043),
  ("CKM_ECDSA_SHA256", 0x1044),
  ("CKM_ECDSA_SHA384", 0x1045),
  ("CKM_ECDSA_SHA512", 0x1046),
  ("CKM_ECDSA_SHA3_224", 0x1047),
  ("CKM_ECDSA_SHA3_256", 0x1048),
  ("CKM_ECDSA_SHA3_384", 0x1049),
  ("CKM_ECDSA_SHA3_512", 0x104A),
  ("CKM_ECDH1_DERIVE", 0x1050),
  ("CKM_EC_EDWARDS_KEY_PAIR_GEN", 0x1055),
  ("CKM_EDDSA", 0x1057),
  ("CKM_AES_KEY_GEN", 0x1080),
  ("CKM_AES_ECB", 0x1081),
  ("CKM_AES_CBC", 0x1082),
  ("CKM_AES_MAC", 0x1083),
  ("CKM_AES_CBC_PAD", 0x1085),
  ("CKM_AES_CTR", 0x1086),
  ("CKM_AES_GCM", 0x1087),
  ("CKM_AES_CMAC", 0x108A),
  ("CKM_AES_KEY_WRAP", 0x2109),
  ("CKM_AES_KEY_WRAP_PAD", 0x210A),
  ("CKM_VENDOR_DEFINED", 0x80000000)]

def aliases : List (String × String) := [
  ("CKM_SHA1", "CKM_SHA_1"),
  ("CKM_SHA1_HMAC", "CKM_SHA_1_HMAC"),
  ("CKM_ECDSA_KEY_PAIR_GEN", "CKM_EC_KEY_PAIR_GEN")]

def ofName? (name : String) : Option Mechanism :=
  catalog.lookup ((aliases.lookup name).getD name)

def name? (mechanism : Mechanism) : Option String :=
  (catalog.find? (·.2 == mechanism)).map (·.1)

def describe (mechanism : Mechanism) : String :=
  match name? mechanism with
  | some name => name
  | none =>
    if vendorDefined ≤ mechanism then
      "CKM_VENDOR_DEFINED|" ++ Text.hex (mechanism.toNat - vendorDefined.toNat)
    else Text.hex mechanism.toNat

def insert (mechanism : Mechanism) : List Mechanism → List Mechanism
  | [] => [mechanism]
  | other :: rest =>
    if mechanism < other then mechanism :: other :: rest
    else if mechanism = other then other :: rest
    else other :: insert mechanism rest

def sorted (mechanisms : List Mechanism) : List Mechanism :=
  mechanisms.foldr insert []

@[simp] theorem mem_insert {mechanism other : Mechanism} {mechanisms : List Mechanism} :
    mechanism ∈ insert other mechanisms ↔ mechanism = other ∨ mechanism ∈ mechanisms := by
  induction mechanisms with
  | nil => simp [insert]
  | cons first rest ih =>
    unfold insert
    split
    · simp
    · split
      · next hsame => simp [hsame]
      · simp [ih, or_left_comm]

theorem mem_sorted {mechanism : Mechanism} {mechanisms : List Mechanism} :
    mechanism ∈ sorted mechanisms ↔ mechanism ∈ mechanisms := by
  induction mechanisms with
  | nil => rfl
  | cons first rest ih =>
    rw [sorted, List.foldr_cons, mem_insert, List.mem_cons]
    rw [← ih, sorted]

end Mechanism

end TokenSigner
