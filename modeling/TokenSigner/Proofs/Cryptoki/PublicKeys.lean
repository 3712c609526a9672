import TokenSigner.Proofs.Cryptoki.Rehearsed

namespace TokenSigner.Cryptoki

variable {ℓ : Type} {library : Library ℓ} {session : Session} {contents : Contents}
  {shows : List UInt64 → ℓ → Prop} {pending : List UInt64}

namespace Contents

def IsNamed (contents : Contents) (object : UInt64) : KeyIdentifier → Prop
  | .label text => contents.availability object Attribute.label = .revealed (Text.utf8 text)
  | .id bytes => contents.availability object Attribute.id = .revealed bytes

instance (contents : Contents) (object : UInt64) :
    (key : KeyIdentifier) → Decidable (contents.IsNamed object key)
  | .label _ | .id _ => inferInstanceAs (Decidable (_ = _))

def IsPublic (contents : Contents) (object : UInt64) : Prop :=
  contents.availability object Attribute.objectClass =
    .revealed (Bytes.ofNatLittle 8 ObjectClass.publicKey.toNat)

instance (contents : Contents) (object : UInt64) : Decidable (contents.IsPublic object) :=
  inferInstanceAs (Decidable (_ = _))

def publicObject? (contents : Contents) (key : KeyIdentifier) : Option UInt64 :=
  contents.objects.find? fun object => contents.IsPublic object ∧ contents.IsNamed object key

def pairValue? (contents : Contents) (key : KeyIdentifier) (object code : UInt64) :
    Option Bytes :=
  ((contents.publicObject? key).bind (contents.value? · code)).or (contents.value? object code)

inductive Describes (contents : Contents) (key : KeyIdentifier) (object : UInt64) :
    PublicKey → Prop
  | rsa {modulus exponent : Bytes} (htype : contents.keyType? object = some KeyType.rsa)
    (hmodulus : contents.pairValue? key object Attribute.modulus = some modulus)
    (hexponent : contents.pairValue? key object Attribute.publicExponent = some exponent) :
    Describes contents key object (.rsa modulus exponent)
  | dsa {prime : Bytes} (htype : contents.keyType? object = some KeyType.dsa)
    (hprime : contents.pairValue? key object Attribute.prime = some prime) :
    Describes contents key object (.dsa prime)
  | ec {parameters : Bytes} (htype : contents.keyType? object = some KeyType.ec)
    (hparameters : contents.pairValue? key object Attribute.ecParameters = some parameters) :
    Describes contents key object (.ec parameters)
  | other {keyType : UInt64} (htype : contents.keyType? object = some keyType)
    (hother : keyType ∉ [KeyType.rsa, KeyType.dsa, KeyType.ec]) :
    Describes contents key object (.other keyType)

variable {key : KeyIdentifier} {object : UInt64} {publicKey : PublicKey}

theorem describes_rsa (htype : contents.keyType? object = some KeyType.rsa) :
    contents.Describes key object publicKey ↔ ∃ modulus,
      contents.pairValue? key object Attribute.modulus = some modulus ∧ ∃ exponent,
      contents.pairValue? key object Attribute.publicExponent = some exponent ∧
      publicKey = .rsa modulus exponent := by
  constructor
  · intro hdescribes
    cases hdescribes with
    | rsa _ hmodulus hexponent => exact ⟨_, hmodulus, _, hexponent, rfl⟩
    | dsa hdsa | ec hec => simp_all [KeyType.rsa, KeyType.dsa, KeyType.ec]
    | other hkeyType hother => simp_all
  · rintro ⟨modulus, hmodulus, exponent, hexponent, rfl⟩
    exact .rsa htype hmodulus hexponent

theorem describes_dsa (htype : contents.keyType? object = some KeyType.dsa) :
    contents.Describes key object publicKey ↔ ∃ prime,
      contents.pairValue? key object Attribute.prime = some prime ∧ publicKey = .dsa prime := by
  constructor
  · intro hdescribes
    cases hdescribes with
    | dsa _ hprime => exact ⟨_, hprime, rfl⟩
    | rsa hrsa | ec hec => simp_all [KeyType.rsa, KeyType.dsa, KeyType.ec]
    | other hkeyType hother => simp_all
  · rintro ⟨prime, hprime, rfl⟩
    exact .dsa htype hprime

theorem describes_ec (htype : contents.keyType? object = some KeyType.ec) :
    contents.Describes key object publicKey ↔ ∃ parameters,
      contents.pairValue? key object Attribute.ecParameters = some parameters ∧
      publicKey = .ec parameters := by
  constructor
  · intro hdescribes
    cases hdescribes with
    | ec _ hparameters => exact ⟨_, hparameters, rfl⟩
    | rsa hrsa | dsa hdsa => simp_all [KeyType.rsa, KeyType.dsa, KeyType.ec]
    | other hkeyType hother => simp_all
  · rintro ⟨parameters, hparameters, rfl⟩
    exact .ec htype hparameters

theorem describes_other {keyType : UInt64} (htype : contents.keyType? object = some keyType)
    (hother : keyType ∉ [KeyType.rsa, KeyType.dsa, KeyType.ec]) :
    contents.Describes key object publicKey ↔ publicKey = .other keyType := by
  constructor
  · intro hdescribes
    cases hdescribes with
    | rsa hrsa | dsa hdsa | ec hec => simp_all
    | other hkeyType => rw [Option.some.inj (htype.symm.trans hkeyType)]
  · rintro rfl
    exact .other htype hother

theorem Describes.has_keyType (h : contents.Describes key object publicKey) :
    ∃ keyType, contents.keyType? object = some keyType := by
  cases h <;> exact ⟨_, ‹_›⟩

theorem head?_found (contents : Contents) (key : KeyIdentifier) :
    (contents.found (Session.template ObjectClass.publicKey key)).head? =
      contents.publicObject? key := by
  rw [found, List.head?_filter, publicObject?]
  congr 1
  funext object
  rw [Bool.eq_iff_iff, decide_eq_true_iff]
  cases key <;> simp [fits, Session.template, IsPublic, IsNamed, KeyIdentifier.value]

end Contents

theorem tells_pairAttribute (h : Presents library session.handle contents shows)
    (publicObject : Option UInt64) (object code : UInt64) :
    Tells (Showing shows pending) (session.pairAttribute library publicObject object code)
      (((publicObject.bind (contents.value? · code)).or (contents.value? object code)).elim
        (.error (.attributeUnavailable code object)) .ok)
      (Showing shows pending) := by
  cases publicObject
  case' none => refine .bind (.pure none) ?_
  case' some publicObject =>
    refine .bind (tells_readAttribute h publicObject code) ?_
    rw [Option.bind_some]
    rcases contents.value? publicObject code with _ | value
  case some.some => exact .pure value
  -- The public object is missing or tells nothing.
  all_goals
    refine .bind (tells_readAttribute h object code) ?_
    cases contents.value? object code with
    | none => exact .throw _
    | some value => exact .pure value

def TellsOf {α : Type} (P : Application ℓ → Prop) (a : Action (Application ℓ) α) (D : α → Prop)
    (Q : Application ℓ → Prop) : Prop :=
  ∃ result, Tells P a result Q ∧ (∀ x, result = .ok x ↔ D x) ∧
    ∀ e, result = .error e → e.kind = .token

section TellsOf

variable {α β : Type} {P Q R : Application ℓ → Prop} {a : Action (Application ℓ) α}
  {f : α → Action (Application ℓ) β} {D : α → Prop} {E : β → Prop}

theorem TellsOf.pure {x : α} (hx : ∀ y, D y ↔ y = x) : TellsOf P (Pure.pure x) D P :=
  ⟨.ok x, .pure x, fun y => by rw [hx, Except.ok.injEq, eq_comm], nofun⟩

theorem TellsOf.of_option {value : Option α} {e : Error} (hkind : e.kind = .token)
    (ha : Tells P a (value.elim (.error e) .ok) Q) :
    TellsOf P a (fun x => value = some x) Q := by
  refine ⟨_, ha, fun x => ?_, fun e' he => ?_⟩ <;> cases value <;> simp_all

theorem Tells.bind_of {x : α} (ha : Tells P a (.ok x) Q) (hf : TellsOf Q (f x) E R) :
    TellsOf P (a >>= f) E R := by
  obtain ⟨result, hf, hresult⟩ := hf
  exact ⟨result, .bind ha hf, hresult⟩

theorem TellsOf.bind {F : α → β → Prop} (hE : ∀ y, E y ↔ ∃ x, D x ∧ F x y)
    (ha : TellsOf P a D Q) (hf : ∀ x, D x → TellsOf Q (f x) (F x) Q) :
    TellsOf P (a >>= f) E Q := by
  obtain ⟨result, ha, hD, hkind⟩ := ha
  cases result with
  | ok x =>
    obtain ⟨result, hf, hF, hkind⟩ := hf x ((hD x).mp rfl)
    refine ⟨result, .bind ha hf, fun y => (hF y).trans ?_, hkind⟩
    rw [hE]
    refine ⟨fun hy => ⟨x, (hD x).mp rfl, hy⟩, ?_⟩
    rintro ⟨x', hx', hy⟩
    rwa [Except.ok.inj ((hD x').mpr hx')]
  | error e =>
    refine ⟨.error e, .bind_error ha, fun y => ⟨nofun, fun hy => ?_⟩, fun e' he => hkind e' ?_⟩
    · obtain ⟨x, hx, -⟩ := (hE y).mp hy
      exact nomatch (hD x).mpr hx
    · rw [Except.error.inj he]

end TellsOf

theorem tells_publicKey (h : Presents library session.handle contents shows) {patience : Nat}
    (object : UInt64) (key : KeyIdentifier)
    (hpatience : (contents.found (Session.template ObjectClass.publicKey key)).length <
      patience) :
    TellsOf (Showing shows pending) (session.publicKey library patience object key)
      (contents.Describes key object) (Showing shows []) := by
  have hfind : Tells (Showing shows pending) _ _ _ := tells_findKey h hpatience
  rw [contents.head?_found] at hfind
  have htype : TellsOf (Showing shows []) _ _ _ :=
    .of_option rfl (tells_keyType h object)
  have hread (code : UInt64) : TellsOf (Showing shows [])
      (session.pairAttribute library (contents.publicObject? key) object code)
      (fun value => contents.pairValue? key object code = some value) (Showing shows []) :=
    .of_option rfl (tells_pairAttribute h _ object code)
  have hdescribes (publicKey : PublicKey) : contents.Describes key object publicKey ↔
      ∃ keyType, contents.keyType? object = some keyType ∧
        contents.Describes key object publicKey :=
    ⟨fun h => h.has_keyType.imp fun _ htype => ⟨htype, h⟩, fun h => h.elim fun _ h => h.2⟩
  refine hfind.bind_of (.bind hdescribes htype fun keyType hkeyType => ?_)
  by_cases hrsa : keyType = KeyType.rsa
  · subst hrsa
    rw [if_pos rfl]
    exact .bind (fun _ => Contents.describes_rsa hkeyType) (hread _) fun modulus _ =>
      .bind (fun _ => Iff.rfl) (hread _) fun exponent _ => .pure fun _ => Iff.rfl
  by_cases hdsa : keyType = KeyType.dsa
  · subst hdsa
    rw [if_neg hrsa, if_pos rfl]
    exact .bind (fun _ => Contents.describes_dsa hkeyType) (hread _) fun prime _ =>
      .pure fun _ => Iff.rfl
  by_cases hec : keyType = KeyType.ec
  · subst hec
    rw [if_neg hrsa, if_neg hdsa, if_pos rfl]
    exact .bind (fun _ => Contents.describes_ec hkeyType) (hread _) fun parameters _ =>
      .pure fun _ => Iff.rfl
  · rw [if_neg hrsa, if_neg hdsa, if_neg hec]
    exact .pure fun _ => Contents.describes_other hkeyType (by simp [hrsa, hdsa, hec])

theorem publicKey_as_held {key : KeyIdentifier} {object : UInt64} {patience : Nat}
    {application after : Application ℓ} {result : Except Error PublicKey}
    (h : Presents library session.handle contents shows)
    (hpatience : (contents.found (Session.template ObjectClass.publicKey key)).length < patience)
    (hshows : shows pending application.library)
    (hrun : (session.publicKey library patience object key).run application = (result, after)) :
    ∃ asked : List Exchange, after.exchanges = application.exchanges ++ asked ∧
      (∀ publicKey, result = .ok publicKey ↔
        (∀ exchange ∈ asked, exchange.fails = false) ∧
          contents.Describes key object publicKey) ∧
      ∀ e, result = .error e → e.kind = .token := by
  obtain ⟨told, htells, hdescribes, hkind⟩ := tells_publicKey h object key hpatience
  obtain ⟨asked, hasked, htold⟩ := htells application hshows
  rw [hrun] at hasked htold
  refine ⟨asked, hasked, ?_⟩
  cases htold with
  | answered hfine hafter =>
    exact ⟨fun publicKey => (hdescribes publicKey).trans (and_iff_right hfine).symm, hkind⟩
  | failed hfails hkind =>
    obtain ⟨exchange, hexchange, hfails⟩ := hfails
    refine ⟨fun publicKey => ⟨nofun, fun hfine => ?_⟩, fun e he => Except.error.inj he ▸ hkind⟩
    exact absurd hfails (by simp [hfine.1 exchange hexchange])

theorem publicKey_as_held_in_two_objects :
    let object (handle objectClass : UInt64) (name : String)
        (attributes : List (UInt64 × Rehearsal.Stored)) : Rehearsal.StoredObject := {
      handle
      attributes := (Attribute.objectClass, .value (Bytes.ofNatLittle 8 objectClass.toNat)) ::
        (Attribute.label, .value (Text.utf8 name)) :: attributes
      signature := none, announced := none }
    let slot : Rehearsal.LibrarySlot := ⟨7, [], 0, [
      object 1 ObjectClass.publicKey "other"
        [(Attribute.modulus, .value [1]), (Attribute.publicExponent, .value [1])],
      object 2 ObjectClass.privateKey "signing"
        [(Attribute.keyType, .value (Bytes.ofNatLittle 8 KeyType.rsa.toNat)),
          (Attribute.modulus, .value [2]), (Attribute.publicExponent, .value [2])],
      object 3 ObjectClass.publicKey "signing"
        [(Attribute.modulus, .value [3]),
          (Attribute.publicExponent, .refused ReturnCode.attributeSensitive)],
      object 4 ObjectClass.publicKey "signing"
        [(Attribute.modulus, .value [4]), (Attribute.publicExponent, .value [4])]], []⟩
    let script : Rehearsal.Script := ⟨[slot], 0, none, [⟨"C_Sign", none, 5⟩]⟩
    let application : Application Rehearsal.LibraryState :=
      ⟨{ script, sessions := [⟨1, 7, none, none⟩] }, [], [], 0, []⟩
    let session : Session := ⟨1, 0⟩
    let told := (session.publicKey Rehearsal.library 3 2 (.label "signing")).run application
    script.Truthful slot ∧
    (slot.contents.found (Session.template ObjectClass.publicKey (.label "signing"))).length < 3 ∧
    script.Shows slot session.handle [] application.library ∧
    told.1 = .ok (.rsa [3] [2]) ∧
    slot.contents.Describes (.label "signing") 2 (.rsa [3] [2]) := by
  intro object slot script application session told
  have htruthful : script.Truthful slot := ⟨rfl, by decide, by decide, by decide⟩
  have hpatience : (slot.contents.found
    (Session.template ObjectClass.publicKey (.label "signing"))).length < 3 := by decide +kernel
  have hshows : script.Shows slot session.handle [] application.library :=
    ⟨rfl, ⟨1, 7, none, none⟩, rfl, rfl, rfl⟩
  have htold : told.1 = .ok (.rsa [3] [2]) := by decide +kernel
  obtain ⟨asked, -, hdescribes, -⟩ := publicKey_as_held
    (Rehearsal.presents_contents htruthful session.handle) hpatience hshows (Prod.eta told).symm
  exact ⟨htruthful, hpatience, hshows, htold, ((hdescribes _).mp htold).2⟩

end TokenSigner.Cryptoki
