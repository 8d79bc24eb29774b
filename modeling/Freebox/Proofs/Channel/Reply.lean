import Freebox.Proofs.Envelope.Refusal

/-!
# `Freebox.Proofs.Channel.Reply` — the first message that settles a wait

A wait for a reply takes messages from a channel until one of them settles it: one that is no object, or one that
answers the action and, if a request is asked for, that request. That message alone decides what the wait ends in. The
messages before it are used up without a trace, and those behind it stay for whoever waits next. Where no message
settles the wait, it ends in what the channel ends in.

## Contents
- `Channel.Settles`, `Channel.settled`: messages that settle a wait, and what they make of it.
- `Channel.settles_iff`, `Channel.not_settles_iff`: a message settles a wait exactly if it is not passed over.
- `Channel.Ending`, `Channel.lost_network`: how a channel ends, and the error of the network that this is.
- `Channel.findReply_first`, `Channel.findReply_none`, `Channel.findReply_ok`: the search with and without such a
  message, and what is found.
- `Channel.awaitReply_settled`: what a wait takes and what it ends in, for all messages.
-/

namespace Freebox

namespace Channel

/-! ## Messages that settle a wait -/

/-- A message settles the wait for a reply: it is no object, or it answers the action and the request, if one is asked
for. -/
def Settles (action : String) (request : Option Int) (m : Raw) : Prop :=
  ∀ ms : Members, Json.read m = .ok (.obj ms) →
    ms.get "action" = .str action ∧ ∀ n ∈ request, (ms.get "request_id").isNumber n = true

/-- What a message makes of the wait that it settles: an error of decoding if it is no object, the message itself if it
reports success, and the refusal that it is otherwise. -/
def settled (m : Raw) : Except Failure Members :=
  match Json.read m with
  | .error e => .error (.ofDecoding (.frame m e))
  | .ok (.obj ms) =>
    if Members.get? ms "success" = some (.bool true) then .ok ms else .error ((Envelope.ofMembers ms).refused none)
  | .ok v => .error (.ofDecoding (.messageKind v.kind))

/-- What is told as an answer reports success. -/
theorem settled_ok {m : Raw} {ms : Members} (told : settled m = .ok ms) :
    Json.read m = .ok (.obj ms) ∧ ms.get? "success" = some (.bool true) := by
  unfold settled at told
  split at told
  · cases told
  next other read =>
    split at told
    next success =>
      obtain rfl := Except.ok.inj told
      exact ⟨read, success⟩
    · cases told
  · cases told

theorem accepted_eq (ms : Members) :
    accepted ms = if ms.get? "success" = some (.bool true) then .ok ms
      else .error ((Envelope.ofMembers ms).refused none) := by
  have reported : (Envelope.ofMembers ms).success = decide (ms.get? "success" = some (.bool true)) := rfl
  rw [accepted, reported]
  by_cases success : ms.get? "success" = some (.bool true) <;> simp [success]

theorem isReply_iff (action : String) (request : Option Int) (ms : Members) :
    isReply action request ms = true ↔
      ms.get "action" = .str action ∧ ∀ n ∈ request, (ms.get "request_id").isNumber n = true := by
  cases request <;> simp [isReply]

/-- The object that a message holds is the value that is read from it, if that is one. -/
theorem decodeMessage_ok_iff (m : Raw) (ms : Members) :
    decodeMessage m = .ok ms ↔ Json.read m = .ok (.obj ms) := by
  unfold decodeMessage
  cases Json.read m with
  | error e => simp
  | ok v => cases v <;> simp

theorem settles_iff (action : String) (request : Option Int) (m : Raw) :
    Settles action request m ↔ ∀ ms : Members, decodeMessage m = .ok ms → isReply action request ms = true := by
  simp only [Settles, decodeMessage_ok_iff, isReply_iff]

/-- A message that does not settle a wait is passed over. -/
theorem not_settles_iff (action : String) (request : Option Int) (m : Raw) :
    ¬ Settles action request m ↔ PassedOver action request (.message m) := by
  rw [settles_iff, PassedOver]
  cases decoded : decodeMessage m with
  | error e => simp [decoded]
  | ok ms => simp [decoded]

instance (action : String) (request : Option Int) (m : Raw) : Decidable (Settles action request m) :=
  match decoded : decodeMessage m with
  | .error _ => .isTrue (by simp [settles_iff, decoded])
  | .ok ms => decidable_of_iff (isReply action request ms = true) (by simp [settles_iff, decoded])

/-! ## The ends of channels -/

/-- What comes behind the messages of a channel: it has been closed, or it fails, with whatever may be left behind the
failure. -/
inductive Ending : SocketError → List Incoming → List Incoming → Prop
  | closed : Ending .closedNormally [] []
  | failure (e : SocketError) (left : List Incoming) : Ending e (.failure e :: left) left

/-- The error of the network that a wait ends in if the channel ends first. -/
def unanswered (action : String) (within : Quantity) : SocketError → NetworkError
  | .timeout _ => .noReply action within
  | e => .connectionLost action e.reason

theorem lost_network {e : SocketError} (known : ∀ m, e ≠ .foreign m) (action : String) (within : Quantity) :
    lost action within e = .ofBox (.network (unanswered action within e)) := by
  cases e with
  | foreign m => exact absurd rfl (known m)
  | _ => rfl

/-! ## The search -/

section
variable {action : String} {request : Option Int} {within : Quantity} {m : Raw} {rest : List Incoming}

/-- The first of the messages to come, if it settles the wait. -/
theorem findReply_here (settles : Settles action request m) :
    findReply action request within (.message m :: rest) = (settled m, rest) := by
  rw [settles_iff] at settles
  rw [findReply, settled]
  cases decoded : decodeMessage m with
  | ok ms =>
    have read := (decodeMessage_ok_iff m ms).mp decoded
    simp only [settles ms decoded, if_true, read, accepted_eq]
  | error e =>
    -- no object, so the error of decoding is the one that reading met with, or the kind of the other value
    unfold decodeMessage at decoded
    cases read : Json.read m with
    | error why => simp_all
    | ok v => cases v <;> simp_all

/-- Messages that do not settle the wait are used up, by induction on them. -/
theorem findReply_skips {passed : List Raw} (unsettled : ∀ p ∈ passed, ¬ Settles action request p) :
    findReply action request within (passed.map .message ++ rest) = findReply action request within rest := by
  induction passed with
  | nil => rfl
  | cons p passed ih =>
    obtain ⟨_, ms, ⟨⟩, decoded, foreign⟩ := (not_settles_iff action request p).mp (unsettled p (by simp))
    simp only [List.map_cons, List.cons_append, findReply, decoded, foreign]
    exact ih fun q hq => unsettled q (by simp [hq])

theorem findReply_first {passed : List Raw} (unsettled : ∀ p ∈ passed, ¬ Settles action request p)
    (settles : Settles action request m) :
    findReply action request within (passed.map .message ++ .message m :: rest) = (settled m, rest) := by
  rw [findReply_skips unsettled, findReply_here settles]

theorem findReply_none {messages : List Raw} (unsettled : ∀ p ∈ messages, ¬ Settles action request p)
    {e : SocketError} {ending left : List Incoming} (ends : Ending e ending left) (known : ∀ m, e ≠ .foreign m) :
    findReply action request within (messages.map .message ++ ending)
      = (.error (.ofBox (.network (unanswered action within e))), left) := by
  rw [findReply_skips unsettled, ← lost_network known]
  cases ends <;> rfl

/-- What is found is the first message that settles the wait, by induction on the messages. -/
theorem findReply_ok {inbox : List Incoming} {ms : Members}
    (found : findReply action request within inbox = (.ok ms, rest)) :
    ∃ skipped m, inbox = skipped ++ .message m :: rest ∧ Settles action request m ∧ settled m = .ok ms := by
  induction inbox with
  | nil => simp [findReply] at found
  | cons i inbox ih =>
    cases i with
    | failure e => simp [findReply] at found
    | message m =>
      by_cases settles : Settles action request m
      · rw [findReply_here settles] at found
        obtain ⟨told, rfl⟩ := Prod.mk.inj found
        exact ⟨[], m, rfl, settles, told⟩
      · have unsettled : ∀ p ∈ [m], ¬ Settles action request p := by simpa using settles
        have behind : findReply action request within inbox = (.ok ms, rest) := by
          rw [← found]
          exact (findReply_skips unsettled).symm
        obtain ⟨skipped, other, rfl, h⟩ := ih behind
        exact ⟨.message m :: skipped, other, rfl, h⟩

end

/-! ## The wait -/

section
variable {action : String} {request : Option Int} {within : Quantity} {c : Logged Channel}

/-- Only the messages of a channel change, as the search leaves them. -/
theorem awaitReply_apply {result : Except Failure Members} {left : List Incoming}
    (found : findReply action request within c.value.inbox = (result, left)) :
    awaitReply action request within c = (result, { c with value := { c.value with inbox := left } }) := by
  unfold awaitReply
  rw [found]

section
variable {messages : List Raw} {e : SocketError} {ending left : List Incoming}

variable (within) in
/-- If a message settles the wait, exactly the messages up to it are taken. -/
theorem awaitReply_found (inbox : c.value.inbox = messages.map .message ++ ending) {m : Raw}
    (first : messages.find? (Settles action request ·) = some m) :
    ∃ passed later, messages = passed ++ m :: later ∧ (∀ p ∈ passed, ¬ Settles action request p) ∧
      Settles action request m ∧
      awaitReply action request within c
        = (settled m, { c with value := { c.value with inbox := later.map .message ++ ending } }) := by
  obtain ⟨settles, passed, later, rfl, unsettled⟩ := List.find?_eq_some_iff_append.mp first
  have skipped : ∀ p ∈ passed, ¬ Settles action request p := by simpa using unsettled
  have answers : Settles action request m := by simpa using settles
  refine ⟨passed, later, rfl, skipped, answers, awaitReply_apply ?_⟩
  rw [inbox, List.map_append, List.map_cons, List.append_assoc]
  exact findReply_first skipped answers

/-- If no message settles the wait, all of them are taken, and the failure behind them. -/
theorem awaitReply_missed (ends : Ending e ending left) (known : ∀ m, e ≠ .foreign m)
    (inbox : c.value.inbox = messages.map .message ++ ending)
    (none : messages.find? (Settles action request ·) = none) :
    (∀ m ∈ messages, ¬ Settles action request m) ∧
      awaitReply action request within c
        = (.error (.ofBox (.network (unanswered action within e))),
            { c with value := { c.value with inbox := left } }) := by
  have skipped : ∀ m ∈ messages, ¬ Settles action request m := by simpa using none
  refine ⟨skipped, awaitReply_apply ?_⟩
  rw [inbox]
  exact findReply_none skipped ends known

/-- What a wait ends in is decided by the first message that settles it. -/
theorem awaitReply_outcome (ends : Ending e ending left) (known : ∀ m, e ≠ .foreign m)
    (inbox : c.value.inbox = messages.map .message ++ ending) :
    (awaitReply action request within c).1
      = match messages.find? (Settles action request ·) with
        | some m => settled m
        | none => .error (.ofBox (.network (unanswered action within e))) := by
  cases first : messages.find? (Settles action request ·) with
  | some m =>
    obtain ⟨_, _, -, -, -, found⟩ := awaitReply_found within inbox first
    rw [found]
  | none =>
    rw [(awaitReply_missed ends known inbox first).2]

/-- **A wait ends with the first message that settles it.** If there is one, exactly the messages up to it are taken,
and it alone decides the outcome. If there is none, all messages are taken, and so is the failure behind them, which the
wait ends in as an error of the network. Messages that do not settle the wait never tell: two channels that differ in
nothing else lead to the same outcome. -/
theorem awaitReply_settled (ends : Ending e ending left) (known : ∀ m, e ≠ .foreign m)
    (inbox : c.value.inbox = messages.map .message ++ ending) :
    ((∃ passed m later, messages = passed ++ m :: later ∧ (∀ p ∈ passed, ¬ Settles action request p) ∧
          Settles action request m ∧
          awaitReply action request within c
            = (settled m, { c with value := { c.value with inbox := later.map .message ++ ending } })) ∨
        ((∀ m ∈ messages, ¬ Settles action request m) ∧
          awaitReply action request within c
            = (.error (.ofBox (.network (unanswered action within e))),
                { c with value := { c.value with inbox := left } }))) ∧
      ∀ (d : Logged Channel) (others : List Raw) (ending' left' : List Incoming), Ending e ending' left' →
        d.value.inbox = others.map .message ++ ending' →
        others.filter (Settles action request ·) = messages.filter (Settles action request ·) →
        (awaitReply action request within d).1 = (awaitReply action request within c).1 := by
  constructor
  · cases first : messages.find? (Settles action request ·) with
    | some m =>
      obtain ⟨passed, later, h⟩ := awaitReply_found within inbox first
      exact Or.inl ⟨passed, m, later, h⟩
    | none =>
      exact Or.inr (awaitReply_missed ends known inbox first)
  · -- the first message that settles the wait is the first of those that are kept
    intro d others ending' left' ends' inbox' same
    rw [awaitReply_outcome ends known inbox, awaitReply_outcome ends' known inbox', ← List.head?_filter,
      ← List.head?_filter, same]

end

end

/-- The reply to the second of two uploads is found behind a notification and the reply to the first, and what comes
next is left. -/
theorem second_upload_settled :
    let notified : Raw := .text "\x7b\"action\": \"notification\", \"success\": true\x7d"
    let first : Raw := .text "\x7b\"action\": \"upload_start\", \"success\": true, \"request_id\": 1\x7d"
    let second : Raw := .text "\x7b\"action\": \"upload_start\", \"success\": true, \"request_id\": 2\x7d"
    let inbox : List Incoming := [.message notified, .message first, .message second, .failure (.timeout "")]
    let c : Logged Channel := ⟨⟨1, inbox, [], 1⟩, []⟩
    (∀ m, SocketError.timeout "" ≠ .foreign m) ∧
      awaitReply "upload_start" (some 2) (.int 10) c
        = (.ok [("action", .str "upload_start"), ("success", .bool true), ("request_id", .int 2)],
            ⟨⟨1, [.failure (.timeout "")], [], 1⟩, []⟩) := by
  intro notified first second inbox c
  have known : ∀ m, SocketError.timeout "" ≠ .foreign m := by simp
  have other : ¬ Settles "upload_start" (some 2) notified := by decide +kernel
  have earlier : ¬ Settles "upload_start" (some 2) first := by decide +kernel
  have answers : Settles "upload_start" (some 2) second := by decide +kernel
  have accepted : settled second
      = .ok [("action", .str "upload_start"), ("success", .bool true), ("request_id", .int 2)] :=
    Attempt.ok_of_toOption (by decide +kernel)
  refine ⟨known, ?_⟩
  obtain ⟨outcome, -⟩ := @awaitReply_settled "upload_start" (some 2) (.int 10) c [notified, first, second] (.timeout "")
    _ _ (.failure (.timeout "") []) known rfl
  rcases outcome with ⟨passed, m, later, split, unsettled, settles, found⟩ | ⟨unsettled, -⟩
  · match passed, split with
    | [], split =>
      have same : notified = m := (List.cons.inj split).1
      exact absurd (same ▸ settles) other
    | [_], split =>
      have same : first = m := (List.cons.inj (List.cons.inj split).2).1
      exact absurd (same ▸ settles) earlier
    | [_, _], split =>
      obtain ⟨same, none⟩ := List.cons.inj (List.cons.inj (List.cons.inj split).2).2
      rw [found, ← same, accepted, ← none]
      rfl
    | _ :: _ :: p :: _, split =>
      have same : second = p := (List.cons.inj (List.cons.inj (List.cons.inj split).2).2).1
      exact absurd (same ▸ answers) (unsettled p (by simp))
  · exact absurd answers (unsettled second (by simp))

end Channel

end Freebox
