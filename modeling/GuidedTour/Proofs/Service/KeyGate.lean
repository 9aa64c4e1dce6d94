import GuidedTour.Proofs.Service.Limiting

/-! The key gate. Two keys match exactly if they are the same text, whatever bytes they hold. So a
server with a key serves those who show it as a server without one does, and turns everybody else
away, whatever they ask for. The limiter stands in front of the gate and asks for no key. -/
namespace GuidedTour.Service

section Keys

variable {bs cs : List UInt8} {provided expected : String}

theorem foldl_or_eq_zero_iff {b : UInt8} :
    bs.foldl (· ||| ·) b = 0 ↔ b = 0 ∧ ∀ d ∈ bs, d = 0 := by
  induction bs generalizing b with
  | nil => simp
  | cons d rest ih =>
    rw [List.foldl_cons, ih, UInt8.or_eq_zero_iff]
    simp [and_assoc]

theorem forall_xor_eq_zero_iff (same : bs.length = cs.length) :
    (∀ d ∈ bs.zipWith (· ^^^ ·) cs, d = 0) ↔ bs = cs := by
  induction bs generalizing cs with
  | nil =>
    cases cs with
    | nil => simp
    | cons => cases same
  | cons b bs ih =>
    cases cs with
    | nil => cases same
    | cons c cs => simp [ih (Nat.succ.inj same)]

theorem length_padded {length : Nat} {s : String} (h : s.utf8ByteSize ≤ length) :
    (padded length s).length = length := by
  have size : s.toUTF8.data.toList.length = s.utf8ByteSize := rfl
  simp only [padded, List.length_append, List.length_replicate, size]
  omega

/-- What is filled up may look the same, as zeros at the end of a key do, but not at one length. -/
theorem padded_inj {length : Nat} {s t : String} (sizes : s.utf8ByteSize = t.utf8ByteSize) :
    padded length s = padded length t ↔ s = t := by
  constructor
  · intro same
    have bytes : s.toUTF8.data.toList = t.toUTF8.data.toList := (List.append_inj same sizes).1
    rw [← String.toByteArray_inj]
    exact ByteArray.ext (Array.toList_inj.1 bytes)
  · rintro rfl
    rfl

theorem keysMatch_iff : keysMatch provided expected = true ↔ provided = expected := by
  have long := Nat.le_max_left provided.utf8ByteSize expected.utf8ByteSize
  have long' := Nat.le_max_right provided.utf8ByteSize expected.utf8ByteSize
  have lengths := (length_padded long).trans (length_padded long').symm
  simp only [keysMatch, Bool.and_eq_true, beq_iff_eq, foldl_or_eq_zero_iff, true_and,
    forall_xor_eq_zero_iff lengths]
  constructor
  · rintro ⟨same, sizes⟩
    exact (padded_inj sizes).1 same
  · rintro rfl
    exact ⟨rfl, rfl⟩

example : keysMatch "s3cret\x00" "s3cret" = false := by decide

end Keys

section Credentials

variable {credential key : String}

def scheme : String := "Bearer "

theorem withoutScheme_eq (credential : String) : withoutScheme credential =
    if scheme.toList.isPrefixOf credential.toList then
      String.ofList (credential.toList.drop scheme.toList.length)
    else credential := rfl

theorem withoutScheme_append (key : String) : withoutScheme (scheme ++ key) = key := by
  have chars : (scheme ++ key).toList = scheme.toList ++ key.toList := String.toList_append
  rw [withoutScheme_eq, if_pos (List.isPrefixOf_iff_prefix.2 ⟨key.toList, chars.symm⟩), chars,
    List.drop_left, String.ofList_toList]

theorem withoutScheme_of_not (h : ¬scheme.toList <+: credential.toList) :
    withoutScheme credential = credential := by
  rw [withoutScheme_eq, if_neg fun starts => h (List.isPrefixOf_iff_prefix.1 starts)]

/-- One scheme word is taken off and no more, so a key that begins with the word itself has to be
sent after another. -/
theorem withoutScheme_eq_iff : withoutScheme credential = key ↔
    credential = scheme ++ key ∨ credential = key ∧ ¬scheme.toList <+: key.toList := by
  by_cases starts : scheme.toList <+: credential.toList
  · obtain ⟨rest, chars⟩ := starts
    obtain rfl : credential = scheme ++ String.ofList rest := by
      rw [← String.toList_inj, ← chars, String.toList_append, String.toList_ofList]
    rw [withoutScheme_append]
    constructor
    · rintro rfl
      exact .inl rfl
    · rintro (same | ⟨rfl, apart⟩)
      · have whole := withoutScheme_append key
        rw [← same, withoutScheme_append] at whole
        exact whole
      · exact absurd ⟨rest, chars⟩ apart
  · rw [withoutScheme_of_not starts]
    constructor
    · rintro rfl
      exact .inr ⟨rfl, starts⟩
    · rintro (rfl | ⟨rfl, -⟩)
      · exact absurd ⟨key.toList, String.toList_append.symm⟩ starts
      · rfl

end Credentials

variable {r : Request} {key : String}

/-- The request shows the key, alone or after the scheme word, in visible characters. -/
def Request.Shows (r : Request) (key : String) : Prop :=
  ∃ credential, r.header? "authorization" = some credential ∧
    (∀ c ∈ credential.toList, isVisible c = true) ∧
    (credential = scheme ++ key ∨ credential = key ∧ ¬scheme.toList <+: key.toList)

theorem admits_iff : admits key (r.header? "authorization") = true ↔ r.Shows key := by
  unfold admits Request.Shows
  cases r.header? "authorization" with
  | none => simp
  | some credential => simp [keysMatch_iff, withoutScheme_eq_iff]

/-- The request asks for the health check, or shows the key. -/
def Request.Passes (r : Request) (key : String) : Prop :=
  r.path = "/health".toList ∨ r.Shows key

instance : Decidable (r.Passes key) :=
  decidable_of_iff (r.path = "/health".toList ∨ admits key (r.header? "authorization") = true)
    (or_congr_right admits_iff)

namespace Host

variable {host : Host} {limiter : Limiter} {s : Sessions}

def locked (host : Host) (key : String) : Host := { host with key := some key }

def unlocked (host : Host) : Host := { host with key := none }

theorem isAdmitted_locked : (host.locked key).isAdmitted r = true ↔ r.Passes key := by
  -- A plain `simp` would spell the path of the health check out, which takes long.
  simp only [isAdmitted, locked, Request.Passes, Bool.or_eq_true, decide_eq_true_eq, admits_iff]

/-- The key decides who is served, and nothing else about what is done. -/
theorem execute_locked (host : Host) (key : String) (s : Sessions) (c : Command) :
    (host.locked key).execute s c = host.unlocked.execute s c := by
  cases c <;> rfl

theorem reply_of_passes (passes : r.Passes key) :
    (host.locked key).reply s r = host.unlocked.reply s r := by
  have admitted : (host.locked key).isAdmitted r = host.unlocked.isAdmitted r :=
    isAdmitted_locked.2 passes
  simp only [reply, admitted, execute_locked]

theorem respond_of_passes (passes : r.Passes key) :
    (host.locked key).respond s r = host.unlocked.respond s r := by
  rw [respond_eq, respond_eq, reply_of_passes passes]
  rfl

theorem reply_of_barred (barred : ¬r.Passes key) : (host.locked key).reply s r =
    (if r.method = "OPTIONS" then .preflight else .refused .unauthorized, s) := by
  have refused : (host.locked key).isAdmitted r = false := by
    rw [Bool.eq_false_iff]
    exact fun admitted => barred (isAdmitted_locked.1 admitted)
  unfold reply
  split
  · rfl
  · simp [refused]

theorem respondAll_locked (host : Host) (key : String) (s : Sessions) (rs : List Request) :
    ((host.locked key).respondAll s rs).2 =
      (host.unlocked.respondAll s (rs.filter (·.Passes key))).2 := by
  induction rs generalizing s with
  | nil => rfl
  | cons r rest ih =>
    by_cases passes : r.Passes key
    · simp [passes, respond_of_passes, ih]
    · have stays : ((host.locked key).respond s r).2 = s := by
        rw [respond_eq, reply_of_barred passes]
      simp [passes, stays, ih]

theorem serve_of_passes {s : State} {call : Call} (passes : call.request.Passes key) :
    (host.locked key).serve limiter s call = host.unlocked.serve limiter s call := by
  have replies : (host.locked key).reply s.sessions call.request =
      host.unlocked.reply s.sessions call.request := reply_of_passes passes
  unfold serve handle
  rw [replies]
  rfl

/-- Two keys match exactly if they are the same text. A server with a key answers the health check,
and whoever shows the key, as a server without one does, and comes to the same state. Any other
request but a preflight, whatever it asks for, is answered 401, or 429 if the limiter turns it
away, and changes no session. So behind the limiter a whole run comes to what those who pass make
of it. -/
theorem key_gate (host : Host) (key : String) (limiter : Limiter) :
    (∀ provided expected, keysMatch provided expected = true ↔ provided = expected) ∧
    (∀ s call, call.request.method ≠ "OPTIONS" →
      let served := (host.locked key).serve limiter s call
      (call.request.Passes key → served = host.unlocked.serve limiter s call) ∧
      (¬call.request.Passes key → served.2.sessions = s.sessions ∧
        served.1.status = if host.lets limiter s call then 401 else 429)) ∧
    ∀ s rs, ((host.locked key).respondAll s rs).2 =
      (host.unlocked.respondAll s (rs.filter (·.Passes key))).2 := by
  refine ⟨fun _ _ => keysMatch_iff, fun s call method => ⟨serve_of_passes, fun barred => ?_⟩,
    respondAll_locked host key⟩
  have lets : (host.locked key).lets limiter s call = host.lets limiter s call := rfl
  rw [sessions_serve, answer_serve, lets]
  cases host.lets limiter s call with
  | false => exact ⟨rfl, rfl⟩
  | true =>
    rw [turn_true, respond_eq, reply_of_barred barred, if_neg method]
    exact ⟨rfl, rfl⟩

/-- The key begins with the scheme word, and one request shows it without another. -/
theorem key_gate_schemes :
    let host : Host := ⟨.builtin, [], 1, none, .any, some 2⟩
    let s : State := ⟨({} : Sessions).insert (.enter .builtin), []⟩
    let closes : Call :=
      ⟨⟨"DELETE", "/sessions/1", [("Authorization", "Bearer Bearer key")], ""⟩, 0⟩
    let strays : Call := ⟨⟨"PATCH", "/nowhere", [("Authorization", "Bearer key")], ""⟩, 0⟩
    let serve (host : Host) (call : Call) := host.serve .atOnce s call
    closes.request.Passes "Bearer key" ∧
      serve (host.locked "Bearer key") closes = serve host.unlocked closes ∧
      ¬strays.request.Passes "Bearer key" ∧
      (serve (host.locked "Bearer key") strays).1.status = 401 := by
  intro host s closes strays serve
  have passes : closes.request.Passes "Bearer key" := by decide +kernel
  have barred : ¬strays.request.Passes "Bearer key" := by decide +kernel
  have gate := (key_gate host "Bearer key" .atOnce).2.1 s
  exact ⟨passes, (gate closes (by decide)).1 passes, barred,
    ((gate strays (by decide)).2 barred).2⟩

/-- Who shows no key is told so once, and the second time that there are too many requests. -/
theorem key_gate_crowded :
    let host : Host := ⟨.builtin, [], 1, some "key", .any, some 1⟩
    let call : Call := { request := ⟨"GET", "/machines", [], ""⟩ }
    ¬call.request.Passes "key" ∧
      (host.serveAll .atOnce {} [call, call]).1.map (·.status) = [401, 429] := by
  decide +kernel

end Host

end GuidedTour.Service
