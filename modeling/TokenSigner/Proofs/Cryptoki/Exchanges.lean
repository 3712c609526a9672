import TokenSigner.Cryptoki.Session

namespace TokenSigner.Cryptoki

abbrev Exchange := Request × Outcome

def Request.begins : Request → Bool
  | .startSignature _ _ _ _ | .startSearch _ _ => true
  | _ => false

namespace Exchange

def begun? : Exchange → Option UInt64
  | (.startSignature session _ _ _, outcome) =>
    if outcome.code = ReturnCode.ok then some session else none
  | _ => none

def continues (session : UInt64) (exchange : Exchange) : Bool :=
  match exchange.1 with
  | .sign other _ _ | .feedSignature other _ | .finishSignature other _ => other == session
  | _ => false

def concludes (session : UInt64) (exchange : Exchange) : Bool :=
  match exchange.1 with
  | .sign other _ (some _) | .finishSignature other (some _) =>
    other == session && exchange.2.code == ReturnCode.ok
  | .closeSession other => other == session
  | _ => false

def overlong (session : UInt64) (exchange : Exchange) : Bool :=
  match exchange.1 with
  | .sign other _ none | .finishSignature other none =>
    other == session && exchange.2.code == ReturnCode.ok &&
      decide (Bytes.largest < exchange.2.announced)
  | _ => false

def Ends (session : UInt64) (exchange : Exchange) : Prop :=
  exchange.concludes session = true ∨ exchange.overlong session = true

theorem begun?_of_begins {request : Request} {outcome : Outcome}
    (h : request.begins = false) : begun? (request, outcome) = none := by
  cases request with
  | startSignature => cases h
  | _ => rfl

theorem begun?_of_continues {session : UInt64} {exchange : Exchange}
    (h : exchange.continues session = true) : exchange.begun? = none := by
  obtain ⟨request, outcome⟩ := exchange
  cases request with
  | startSignature => cases h
  | _ => rfl

theorem begun?_of_concludes {session : UInt64} {exchange : Exchange}
    (h : exchange.concludes session = true) : exchange.begun? = none := by
  obtain ⟨request, outcome⟩ := exchange
  cases request with
  | startSignature => cases h
  | _ => rfl

theorem begun?_of_overlong {session : UInt64} {exchange : Exchange}
    (h : exchange.overlong session = true) : exchange.begun? = none := by
  obtain ⟨request, outcome⟩ := exchange
  cases request with
  | startSignature => cases h
  | _ => rfl

theorem begun?_of_ends {session : UInt64} {exchange : Exchange} (h : exchange.Ends session) :
    exchange.begun? = none :=
  h.elim begun?_of_concludes begun?_of_overlong

theorem not_overlong {session : UInt64} {exchange : Exchange}
    (h : exchange.2.announced ≤ Bytes.largest) : exchange.overlong session = false := by
  obtain ⟨request, outcome⟩ := exchange
  have hroom : decide (Bytes.largest < outcome.announced) = false :=
    decide_eq_false (Nat.not_lt.mpr h)
  cases request with
  | sign other data room | finishSignature other room =>
    cases room with
    | none => simp [overlong, hroom]
    | some room => rfl
  | _ => rfl

end Exchange

def Concluding (exchanges : List Exchange) : Prop :=
  ∀ before start after session, exchanges = before ++ start :: after →
    Exchange.begun? start = some session →
    ∃ during conclusion rest, after = during ++ conclusion :: rest ∧
      (∀ exchange ∈ during, Exchange.continues session exchange = true) ∧
      Exchange.concludes session conclusion = true

def Unfinished (session : UInt64) (exchanges : List Exchange) : Prop :=
  ∃ before start after, exchanges = before ++ start :: after ∧
    Exchange.begun? start = some session ∧
    ∀ exchange ∈ after, Exchange.concludes session exchange = false

variable {session : UInt64} {exchanges exchanges' : List Exchange} {exchange : Exchange}

def EachBegun (begun? : Exchange → Option UInt64) (follows : UInt64 → List Exchange → Prop)
    (exchanges : List Exchange) : Prop :=
  ∀ before start after session, exchanges = before ++ start :: after →
    begun? start = some session → follows session after

section EachBegun

variable {begun? : Exchange → Option UInt64} {follows : UInt64 → List Exchange → Prop}

theorem eachBegun_of_none (h : ∀ exchange ∈ exchanges, begun? exchange = none) :
    EachBegun begun? follows exchanges := by
  rintro before start after session rfl hbegun
  have hnone := h start (by simp)
  rw [hnone] at hbegun
  cases hbegun

theorem EachBegun.append (h : EachBegun begun? follows exchanges)
    (hfollows : ∀ session after, follows session after → follows session (after ++ exchanges'))
    (h' : EachBegun begun? follows exchanges') :
    EachBegun begun? follows (exchanges ++ exchanges') := by
  intro before start after session hsplit hbegun
  rcases List.append_eq_append_iff.mp hsplit with ⟨middle, -, hlater⟩ | ⟨middle, hearlier, hrest⟩
  · exact h' middle start after session hlater hbegun
  · cases middle with
    | nil => exact h' [] start after session hrest.symm hbegun
    | cons head middle =>
      obtain ⟨rfl, rfl⟩ := List.cons.inj hrest
      exact hfollows _ _ (h before start middle session hearlier hbegun)

theorem eachBegun_cons {start : Exchange}
    (hstart : ∀ session, begun? start = some session → follows session exchanges)
    (h : ∀ exchange ∈ exchanges, begun? exchange = none) :
    EachBegun begun? follows (start :: exchanges) := by
  intro before first after session hsplit hbegun
  cases before with
  | nil =>
    obtain ⟨rfl, rfl⟩ := List.cons.inj hsplit
    exact hstart session hbegun
  | cons head before =>
    exact eachBegun_of_none h before first after session (List.cons.inj hsplit).2 hbegun

end EachBegun

-- nothing but its own requests is made until a signing operation is concluded or given up
inductive Signing (session : UInt64) : List Exchange → Prop
  | concluded {during rest : List Exchange} {conclusion : Exchange}
    (hduring : ∀ exchange ∈ during, Exchange.continues session exchange = true)
    (hconclusion : conclusion.concludes session = true) :
    Signing session (during ++ conclusion :: rest)
  | abandoned {during rest : List Exchange} {measured : Exchange}
    (hduring : ∀ exchange ∈ during, Exchange.continues session exchange = true)
    (hoverlong : measured.overlong session = true) :
    Signing session (during ++ measured :: rest)

abbrev Signed : List Exchange → Prop :=
  EachBegun Exchange.begun? Signing

def Pending (session : UInt64) (exchanges : List Exchange) : Prop :=
  ∀ during last, (∀ exchange ∈ during, Exchange.continues session exchange = true) →
    Exchange.Ends session last → Signed (exchanges ++ (during ++ [last]))

def Bounded (exchanges : List Exchange) : Prop :=
  ∀ exchange ∈ exchanges, ∀ session, Exchange.overlong session exchange = false

theorem Concluding.not_unfinished (h : Concluding exchanges) (session : UInt64) :
    ¬Unfinished session exchanges := by
  rintro ⟨before, start, after, hsplit, hbegun, hopen⟩
  obtain ⟨during, conclusion, rest, rfl, -, hconclusion⟩ :=
    h before start after session hsplit hbegun
  rw [hopen conclusion (by simp)] at hconclusion
  cases hconclusion

theorem not_concluding {before during after : List Exchange} {start other : Exchange}
    (hbegun : start.begun? = some session)
    (hduring : ∀ exchange ∈ during, Exchange.concludes session exchange = false)
    (hother : other.continues session = false ∧ other.concludes session = false) :
    ¬Concluding (before ++ start :: (during ++ other :: after)) := by
  intro h
  obtain ⟨course, conclusion, rest, hsplit, hcourse, hconclusion⟩ :=
    h before start _ session rfl hbegun
  have hfirst : conclusion ≠ other := by
    rintro rfl
    rw [hother.2] at hconclusion
    cases hconclusion
  rcases List.append_eq_append_iff.mp hsplit with ⟨middle, hlonger, hrest⟩ |
    ⟨middle, hshorter, hrest⟩
  · cases middle with
    | nil => exact hfirst (List.cons.inj hrest).1.symm
    | cons head middle =>
      -- the other request would be one of the operation's own
      obtain ⟨rfl, -⟩ := List.cons.inj hrest
      have hcontinues := hcourse other (by simp [hlonger])
      rw [hother.1] at hcontinues
      cases hcontinues
  · cases middle with
    | nil => exact hfirst (List.cons.inj hrest).1
    | cons head middle =>
      obtain ⟨rfl, -⟩ := List.cons.inj hrest
      rw [hduring conclusion (by simp [hshorter])] at hconclusion
      cases hconclusion

theorem Signing.of_ends {during rest : List Exchange} {last : Exchange}
    (hduring : ∀ exchange ∈ during, Exchange.continues session exchange = true)
    (hlast : last.Ends session) : Signing session (during ++ last :: rest) :=
  hlast.elim (.concluded hduring) (.abandoned hduring)

theorem Signing.append {after : List Exchange} (h : Signing session after)
    (more : List Exchange) : Signing session (after ++ more) := by
  cases h with
  | concluded hduring hconclusion =>
    rw [List.append_assoc, List.cons_append]
    exact .concluded hduring hconclusion
  | abandoned hduring hoverlong =>
    rw [List.append_assoc, List.cons_append]
    exact .abandoned hduring hoverlong

theorem Signed.concluding (h : Signed exchanges) (hbounded : Bounded exchanges) :
    Concluding exchanges := by
  rintro before start after session rfl hbegun
  have hsigning := h before start after session rfl hbegun
  cases hsigning with
  | concluded hduring hconclusion => exact ⟨_, _, _, rfl, hduring, hconclusion⟩
  | abandoned hduring hoverlong =>
    rw [hbounded _ (by simp) session] at hoverlong
    cases hoverlong

theorem signed_of_begun (h : ∀ exchange ∈ exchanges, exchange.begun? = none) :
    Signed exchanges :=
  eachBegun_of_none h

theorem Signed.append (h : Signed exchanges) (h' : Signed exchanges') :
    Signed (exchanges ++ exchanges') :=
  EachBegun.append h (fun _ _ hsigning => hsigning.append exchanges') h'

theorem Signed.snoc (h : Signed exchanges) (hexchange : exchange.begun? = none) :
    Signed (exchanges ++ [exchange]) :=
  h.append (signed_of_begun (by simpa using hexchange))

theorem begun?_of_course {during : List Exchange} {last : Exchange}
    (hduring : ∀ exchange ∈ during, exchange.continues session = true)
    (hlast : last.Ends session) : ∀ exchange ∈ during ++ [last], exchange.begun? = none := by
  intro exchange hmem
  rcases List.mem_append.mp hmem with hmem | hmem
  · exact Exchange.begun?_of_continues (hduring exchange hmem)
  · rw [List.mem_singleton.mp hmem]
    exact Exchange.begun?_of_ends hlast

theorem Signed.pending (h : Signed exchanges) (session : UInt64) : Pending session exchanges := by
  intro during last hduring hlast
  exact h.append (signed_of_begun (begun?_of_course hduring hlast))

theorem Signed.pending_start (h : Signed exchanges) {key : UInt64} {mechanism : Mechanism}
    {parameters : Option Bytes} {outcome : Outcome} :
    Pending session
      (exchanges ++ [(.startSignature session key mechanism parameters, outcome)]) := by
  intro during last hduring hlast
  rw [List.append_assoc]
  refine h.append (eachBegun_cons ?_ (begun?_of_course hduring hlast))
  intro other hbegun
  simp only [Exchange.begun?] at hbegun
  split at hbegun
  · cases hbegun
    exact .of_ends hduring hlast
  · cases hbegun

theorem Pending.snoc (h : Pending session exchanges)
    (hexchange : exchange.continues session = true) :
    Pending session (exchanges ++ [exchange]) := by
  intro during last hduring hlast
  have hsigned := h (exchange :: during) last ?_ hlast
  · simpa using hsigned
  · simpa using And.intro hexchange hduring

theorem Pending.conclude (h : Pending session exchanges) (hexchange : exchange.Ends session) :
    Signed (exchanges ++ [exchange]) :=
  h [] exchange (by simp) hexchange

namespace Exchange

def sought? : Exchange → Option UInt64
  | (.startSearch session _, outcome) =>
    if outcome.code = ReturnCode.ok then some session else none
  | _ => none

def searches (session : UInt64) (exchange : Exchange) : Bool :=
  match exchange.1 with
  | .search other _ => other == session
  | _ => false

def breaks (exchange : Exchange) : Bool :=
  exchange.2.code != ReturnCode.ok || exchange.2.count.any (Session.batch < ·.toNat)

def finalizes (session : UInt64) (exchange : Exchange) : Bool :=
  match exchange.1 with
  | .finishSearch other | .closeSession other => other == session
  | _ => false

theorem sought?_of_begins {request : Request} {outcome : Outcome}
    (h : request.begins = false) : sought? (request, outcome) = none := by
  cases request with
  | startSearch => cases h
  | _ => rfl

theorem sought?_of_searches {session : UInt64} {exchange : Exchange}
    (h : exchange.searches session = true) : exchange.sought? = none := by
  obtain ⟨request, outcome⟩ := exchange
  cases request with
  | startSearch => cases h
  | _ => rfl

end Exchange

def Finalized (exchanges : List Exchange) : Prop :=
  ∀ before start after session, exchanges = before ++ start :: after →
    Exchange.sought? start = some session →
    ∃ during conclusion rest, after = during ++ conclusion :: rest ∧
      (∀ exchange ∈ during, Exchange.searches session exchange = true) ∧
      Exchange.finalizes session conclusion = true

def Fine (session : UInt64) (during : List Exchange) : Prop :=
  ∀ exchange ∈ during, exchange.searches session = true ∧ exchange.breaks = false

theorem fine_nil : Fine session [] := by
  intro exchange hexchange
  cases hexchange

theorem fine_cons (hsearches : exchange.searches session = true) (hbreaks : exchange.breaks = false)
    (h : Fine session exchanges) : Fine session (exchange :: exchanges) := by
  intro other hother
  rcases List.mem_cons.mp hother with rfl | hlater
  · exact ⟨hsearches, hbreaks⟩
  · exact h other hlater

inductive Search (patience : Nat) (session : UInt64) : List Exchange → Prop
  | finalized {during rest : List Exchange} {conclusion : Exchange}
    (hduring : Fine session during) (hconclusion : conclusion.finalizes session = true) :
    Search patience session (during ++ conclusion :: rest)
  | broken {during rest : List Exchange} {failed : Exchange}
    (hduring : Fine session during)
    (hfailed : failed.searches session = true ∧ failed.breaks = true) :
    Search patience session (during ++ failed :: rest)
  | endless {during rest : List Exchange} (hpatience : during.length = patience)
    (hduring : Fine session during) :
    Search patience session (during ++ rest)

theorem Search.append {patience : Nat} {after : List Exchange} (h : Search patience session after)
    (more : List Exchange) : Search patience session (after ++ more) := by
  cases h with
  | finalized hduring hconclusion =>
    rw [List.append_assoc, List.cons_append]
    exact .finalized hduring hconclusion
  | broken hduring hfailed =>
    rw [List.append_assoc, List.cons_append]
    exact .broken hduring hfailed
  | endless hpatience hduring =>
    rw [List.append_assoc]
    exact .endless hpatience hduring

abbrev Searched (patience : Nat) : List Exchange → Prop :=
  EachBegun Exchange.sought? (Search patience)

theorem Searched.append {patience : Nat} (h : Searched patience exchanges)
    (h' : Searched patience exchanges') : Searched patience (exchanges ++ exchanges') :=
  EachBegun.append h (fun _ _ hsearch => hsearch.append exchanges') h'

theorem Searched.begin {patience : Nat} {template : List (UInt64 × Bytes)} {outcome : Outcome}
    (h : Searched patience exchanges) (hsearch : Search patience session exchanges')
    (hunsought : ∀ exchange ∈ exchanges', exchange.sought? = none) :
    Searched patience (exchanges ++ (.startSearch session template, outcome) :: exchanges') := by
  refine h.append (eachBegun_cons ?_ hunsought)
  intro other hbegun
  simp only [Exchange.sought?] at hbegun
  split at hbegun
  · cases hbegun
    exact hsearch
  · cases hbegun

end TokenSigner.Cryptoki
