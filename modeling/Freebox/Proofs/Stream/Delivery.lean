import Freebox.Proofs.Envelope.Refusal

/-!
# `Freebox.Proofs.Stream.Delivery` — what a stream delivers

A stream is asked for its next notification again and again. Each message that concerns a listener is told by one call:
as a notification, as a refusal, or as a failure to decode it. A failure uses up its own message only, so the call after
it goes on behind that message. At the end of the channel the stream ends as well, with an error if the channel failed,
and from then on every call is told that there is nothing more.

## Contents
- `Raw.news`, `Incoming.Idle`, `news`: what messages are told as, said without the loop of the stream.
- `EventStream.calls`: any number of calls.
- `EventStream.scan_message`, `EventStream.scan_split`: what one look at the messages to come finds, and what it takes.
- `EventStream.calls_told`, `EventStream.calls_taken`: any number of calls, by induction.
- `EventStream.delivers`: nothing is lost, told twice or told in another order.
-/

namespace Freebox

/-! ## News -/

/-- The notification in an object that reports success, or the first member that it lacks. -/
def Members.notified (ms : Members) : Except Failure Record :=
  match ms.get? "source", ms.get? "event" with
  | some source, some name => .ok ⟨[("source", source), ("name", name), ("result", ms.get "result")]⟩
  | some _, none => .error (.ofDecoding (.notification "event"))
  | none, _ => .error (.ofDecoding (.notification "source"))

/-- The failure that a notification without success is: the refusal that it reports, by its code. A code that cannot be
looked up is a fault. -/
def Members.declined (ms : Members) : Failure :=
  if (ms.get "error_code").isKey then .ofBox (.refusal (refusalOf ms none))
  else .fault (.unhashable (ms.get "error_code").kind)

/-- The news in an object: none if its action is another one. -/
def Members.news (ms : Members) : Option (Except Failure Record) :=
  if ms.get "action" = .str "notification" then
    some (if ms.get? "success" = some (.bool true) then ms.notified else .error ms.declined)
  else none

/-- The news in a message; a message that holds no object is news as well. -/
def Raw.news (m : Raw) : Option (Except Failure Record) :=
  match Json.read m with
  | .error e => some (.error (.ofDecoding (.frame m e)))
  | .ok (.obj ms) => Members.news ms
  | .ok v => some (.error (.ofDecoding (.messageKind v.kind)))

/-- What comes in and is no news. -/
def Incoming.Idle (i : Incoming) : Prop := ∃ m, i = .message m ∧ m.news = none

/-- The news in what comes in, up to the end of the channel, and the error that it ends with if it does not end
normally. What is no error of a channel is told as it is, and is no end. -/
def news : List Incoming → List (Except Failure Record)
  | [] => []
  | .message m :: rest => m.news.toList ++ news rest
  | .failure .closedNormally :: _ => []
  | .failure (.foreign text) :: rest => .error (.fault (.foreign text)) :: news rest
  | .failure e :: _ => [.error (.ofBox (.network (.eventStream e.reason)))]

theorem news_idle {passed : List Incoming} (idle : ∀ i ∈ passed, i.Idle) (rest : List Incoming) :
    news (passed ++ rest) = news rest := by
  induction passed with
  | nil => rfl
  | cons i passed ih =>
    obtain ⟨m, rfl, none_told⟩ := idle i (by simp)
    have later := ih fun j hj => idle j (by simp [hj])
    simp [news, none_told, later]

namespace EventStream

/-! ## One look at the messages to come -/

/-- What the news in a message are found as. -/
def Found.ofNews : Except Failure Record → Found
  | .ok r => .event r
  | .error e => .failure e

theorem notification_apply (ms : Members) : notification ms = ms.notified := by
  unfold notification Members.notified
  cases source : ms.get? "source" with
  | none => simp [Resource.event, Layout.ofFields, Layout.ofMembers, Layout.decodeFields, Field.required, source]
  | some v =>
    cases name : ms.get? "event" with
    | none =>
      simp [Resource.event, Layout.ofFields, Layout.ofMembers, Layout.decodeFields, Field.required, Field.renamed,
        source, name]
    | some w =>
      simp [Resource.event, Layout.ofFields, Layout.ofMembers, Layout.decodeFields, Field.required, Field.renamed,
        Field.optional, Field.withDefault, Members.get, source, name]

/-- A notification is accepted and then read. -/
theorem accepted_notification (ms : Members) :
    (Channel.accepted ms >>= fun _ => notification ms)
      = if ms.get? "success" = some (.bool true) then ms.notified else .error ms.declined := by
  by_cases success : ms.get? "success" = some (.bool true)
  · have told : (Envelope.ofMembers ms).success = true := decide_eq_true success
    rw [Channel.accepted, if_pos told, if_pos success, notification_apply]
    rfl
  · have told : (Envelope.ofMembers ms).success = false := ofMembers_refused success
    rw [Channel.accepted, told, if_neg success, refused_apply]
    rfl

/-- **One message**: its news are found and it is used up; without news it is passed over. -/
theorem scan_message (m : Raw) (rest : List Incoming) :
    scan (.message m :: rest) = match m.news with
      | some told => (Found.ofNews told, rest)
      | none => scan rest := by
  rw [scan]
  unfold Channel.decodeMessage Raw.news
  cases Json.read m with
  | error e => rfl
  | ok v =>
    cases v with
    | obj ms =>
      show (if Channel.isReply "notification" none ms then _ else _) = _
      by_cases action : Members.get ms "action" = .str "notification"
      · simp only [Channel.isReply, action, Members.news, ← accepted_notification]
        cases Channel.accepted ms with
        | error e => rfl
        | ok accepted => cases notification ms <;> simp [Found.ofNews, bind, Except.bind]
      · simp [Channel.isReply, action, Members.news]
    | null | bool | int | real | str | arr => rfl

/-- What a look finds in something that comes in and is not passed over. -/
inductive Meets : Incoming → Found → Prop
  | news {m : Raw} {told : Except Failure Record} (h : m.news = some told) : Meets (.message m) (Found.ofNews told)
  | failure (e : SocketError) : Meets (.failure e) (interrupted e)

/-- **One look** passes over what is no news and takes one thing behind it, or else finds the end. -/
theorem scan_split (inbox : List Incoming) :
    ∃ passed, (∀ i ∈ passed, i.Idle) ∧
      ((inbox = passed ∧ scan inbox = (.ended none, [])) ∨
        ∃ i rest found, inbox = passed ++ i :: rest ∧ Meets i found ∧ scan inbox = (found, rest)) := by
  induction inbox with
  | nil => exact ⟨[], by simp, Or.inl ⟨rfl, rfl⟩⟩
  | cons i inbox ih =>
    cases i with
    | failure e => exact ⟨[], by simp, Or.inr ⟨_, inbox, _, rfl, .failure e, rfl⟩⟩
    | message m =>
      cases told : m.news with
      | some found => exact ⟨[], by simp, Or.inr ⟨_, inbox, _, rfl, .news told, by rw [scan_message, told]⟩⟩
      | none =>
        -- the message is passed over, and the look goes on behind it
        have onward : scan (.message m :: inbox) = scan inbox := by rw [scan_message, told]
        obtain ⟨passed, idle, ended | ⟨i, rest, found, split, meets, scanned⟩⟩ := ih
        all_goals refine ⟨.message m :: passed, List.forall_mem_cons.mpr ⟨⟨m, rfl, told⟩, idle⟩, ?_⟩
        · exact Or.inl ⟨by rw [ended.1], onward.trans ended.2⟩
        · exact Or.inr ⟨i, rest, found, by rw [split, List.cons_append], meets, onward.trans scanned⟩

/-! ## Calls -/

/-- What a caller is told of news. -/
def tell (told : Except Failure Record) : Except Failure (Option Record) := told.map some

namespace Found

/-- Whether the stream ends with what was found. -/
def isEnd : Found → Bool
  | ended _ => true
  | _ => false

/-- What a caller is told of what was found, other than that there is nothing more. -/
def brings : Found → List (Except Failure (Option Record))
  | event r => [.ok (some r)]
  | failure e | ended (some e) => [.error e]
  | ended none => []

end Found

theorem brings_of_going {found : Found} (going : found.isEnd = false) : ∃ x, found.brings = [x] := by
  rcases found with r | e | e
  · exact ⟨_, rfl⟩
  · exact ⟨_, rfl⟩
  · cases going

/-- A call is told of the end: that there is nothing more, or that the channel failed. -/
def IsEnd (told : Except Failure (Option Record)) : Prop :=
  told = .ok none ∨ ∃ reason, told = .error (.ofBox (.network (.eventStream reason)))

/-- No message is told like the end of the channel. -/
theorem not_isEnd_of_news {m : Raw} {told : Except Failure Record} (h : m.news = some told) : ¬ IsEnd (tell told) := by
  have declined (ms : Members) : ¬ IsEnd (.error ms.declined) := by
    unfold Members.declined IsEnd
    cases (ms.get "error_code").isKey <;> simp [Failure.ofBox]
  have notified (ms : Members) : ¬ IsEnd (tell ms.notified) := by
    unfold Members.notified IsEnd
    rcases ms.get? "source" with - | source <;> rcases ms.get? "event" with - | name <;>
      simp [tell, Except.map, Failure.ofDecoding, Failure.ofBox]
  have undecoded (e : DecodingError) : ¬ IsEnd (.error (.ofDecoding e)) := by
    simp [IsEnd, Failure.ofDecoding, Failure.ofBox]
  unfold Raw.news at h
  cases read : Json.read m with
  | error e =>
    rw [read] at h
    obtain rfl := Option.some.inj h
    exact undecoded _
  | ok v =>
    rw [read] at h
    cases v with
    | obj ms =>
      replace h : Members.news ms = some told := h
      unfold Members.news at h
      split at h
      · obtain rfl := Option.some.inj h
        by_cases success : Members.get? ms "success" = some (.bool true)
        · rw [if_pos success]
          exact notified ms
        · rw [if_neg success]
          exact declined ms
      · cases h
    | null | bool | int | real | str | arr =>
      obtain rfl := Option.some.inj h
      exact undecoded _

/-- What is found in something that comes in are its news, and those after it count unless it is the end. -/
theorem Meets.news_cons {i : Incoming} {found : Found} (meets : Meets i found) (later : List Incoming) :
    (Freebox.news (i :: later)).map tell
      = found.brings ++ if found.isEnd then [] else (Freebox.news later).map tell := by
  cases meets with
  | @news m told h => cases told <;> simp [Freebox.news, h, Found.ofNews, Found.brings, Found.isEnd, tell, Except.map]
  | failure e => cases e <;> rfl

theorem Meets.isEnd_iff {i : Incoming} {found : Found} (meets : Meets i found) :
    found.isEnd = true ↔ IsEnd (found.brings.headD (.ok none)) := by
  cases meets with
  | @news m told h =>
    have other := not_isEnd_of_news h
    cases told with
    | ok r => simpa [Found.ofNews, Found.brings, Found.isEnd, tell, Except.map] using other
    | error e => simpa [Found.ofNews, Found.brings, Found.isEnd, tell, Except.map] using other
  | failure e => cases e <;> simp [interrupted, Found.brings, Found.isEnd, IsEnd, Failure.ofBox]

/-- One look at the messages to come takes some of them from the front: all that were passed over, and the one that was
found. While the stream goes on, the news behind those that were taken are still to come. -/
structure Looks (inbox taken rest : List Incoming) (found : Found) : Prop where
  split : inbox = taken ++ rest
  goes_on : found.isEnd = false → ∀ later, (news (taken ++ later)).map tell = found.brings ++ (news later).map tell
  ends : found.isEnd = true → (news taken).map tell = found.brings ∧ (news inbox).map tell = found.brings
  isEnd_iff : found.isEnd = true ↔ IsEnd (found.brings.headD (.ok none))

theorem scan_looks (inbox : List Incoming) :
    ∃ taken rest found, scan inbox = (found, rest) ∧ Looks inbox taken rest found := by
  obtain ⟨passed, idle, ⟨rfl, scanned⟩ | ⟨i, rest, found, rfl, meets, scanned⟩⟩ := scan_split inbox
  · have nothing : news inbox = [] := by simpa [news] using news_idle idle []
    exact ⟨inbox, [], _, scanned, by simp, by simp [Found.isEnd], by simp [nothing, Found.brings],
      by simp [Found.isEnd, Found.brings, IsEnd]⟩
  · have brought (later : List Incoming) : (news ((passed ++ [i]) ++ later)).map tell
        = found.brings ++ if found.isEnd then [] else (news later).map tell := by
      rw [List.append_assoc, news_idle idle]
      exact meets.news_cons later
    refine ⟨passed ++ [i], rest, found, scanned, by simp, fun going later => ?_, fun ended => ?_, meets.isEnd_iff⟩
    · rw [brought, going]
      rfl
    · have taken := brought []
      have all := brought rest
      rw [ended] at taken all
      exact ⟨by simpa using taken, by simpa using all⟩

/-- Asks for the next notification any number of times; a failure does not keep the next call from being made. -/
def calls : Nat → Logged EventStream → List (Except Failure (Option Record)) × Logged EventStream
  | 0, s => ([], s)
  | n + 1, s =>
    let (result, after) := next s
    let (results, last) := calls n after
    (result :: results, last)

/-- What calls are told that come after the end: each, that there is nothing more. -/
def nothingMore (n : Nat) : List (Except Failure (Option Record)) := List.replicate n (.ok none)

/-- Of news and then nothing more, a number of calls tell the first news, and what is left over is told nothing more. -/
theorem take_nothingMore (told : List (Except Failure (Option Record))) (n : Nat) :
    (told ++ nothingMore n).take n = told.take n ++ nothingMore (n - told.length) := by
  simp [nothingMore, List.take_append, List.take_replicate]

/-- What was found is told, and if it was the end then nothing more. -/
theorem headD_brings (found : Found) (n : Nat) :
    found.brings.headD (.ok none) :: nothingMore n = found.brings ++ nothingMore (n + 1 - found.brings.length) := by
  rcases found with r | e | (- | e) <;> simp [Found.brings, nothingMore, List.replicate_succ]

theorem length_brings_le (found : Found) : found.brings.length ≤ 1 := by
  rcases found with r | e | (- | e) <;> simp [Found.brings]

/-- A stream after looks at the messages to come: those that were not taken, and whether it has ended. -/
def looked (s : Logged EventStream) (rest : List Incoming) (ended : Bool) : Logged EventStream :=
  { s with value := { s.value with channel := { s.value.channel with inbox := rest }, closed := ended } }

section
variable {s : Logged EventStream}

theorem next_closed (ended : s.value.closed = true) : next s = (.ok none, s) := by
  unfold next
  rw [if_pos ended]

theorem calls_closed (ended : s.value.closed = true) (n : Nat) : calls n s = (nothingMore n, s) := by
  induction n with
  | zero => rfl
  | succ n ih => simp only [calls, next_closed ended, ih, nothingMore, List.replicate_succ]

/-- **One call** on a stream that goes on tells what one look finds. -/
theorem next_open (going : s.value.closed = false) {found : Found} {rest : List Incoming}
    (scanned : scan s.value.channel.inbox = (found, rest)) :
    next s = (found.brings.headD (.ok none), looked s rest found.isEnd) := by
  unfold next looked
  rw [going, scanned]
  rcases found with r | e | (- | e) <;> simp [Found.brings, Found.isEnd, going]

/-- **Any number of calls**, by induction: they tell the news in order and then the end, again and again; the news that
were told are those of the messages that were taken, and nothing else about the stream changes. -/
theorem calls_open (going : s.value.closed = false) (n : Nat) :
    ∃ taken rest ended, s.value.channel.inbox = taken ++ rest ∧ (calls n s).2 = looked s rest ended ∧
      (calls n s).1 = ((news s.value.channel.inbox).map tell ++ nothingMore n).take n ∧
      (calls n s).1 = (news taken).map tell ++ nothingMore (n - (news taken).length) ∧
      (ended = true ↔ ∃ told ∈ (calls n s).1, IsEnd told) := by
  induction n generalizing s with
  | zero =>
    refine ⟨[], s.value.channel.inbox, false, rfl, ?_, by simp [calls], rfl, by simp [calls]⟩
    simp [calls, looked, ← going]
  | succ n ih =>
    obtain ⟨taken, rest, found, scanned, looks⟩ := scan_looks s.value.channel.inbox
    have called := next_open going scanned
    cases ended : found.isEnd with
    | true =>
      obtain ⟨told_taken, told_all⟩ := looks.ends ended
      have isEnd := looks.isEnd_iff.mp ended
      have finished : (looked s rest true).value.closed = true := rfl
      simp only [calls, called, ended, calls_closed finished, told_all]
      have length : (news taken).length = found.brings.length := by rw [← told_taken, List.length_map]
      refine ⟨taken, rest, true, looks.split, rfl, ?_, ?_, iff_of_true rfl ⟨_, List.mem_cons_self .., isEnd⟩⟩
      · have short : found.brings.length ≤ n + 1 := Nat.le_trans (length_brings_le found) (Nat.le_add_left 1 n)
        rw [take_nothingMore, List.take_of_length_le short, headD_brings]
      · rw [length, told_taken, headD_brings]
    | false =>
      obtain ⟨x, brought⟩ := brings_of_going ended
      have later := looks.goes_on ended
      obtain ⟨more, left, finished, split, state, told, accounted, isEnd_iff⟩ := ih (s := looked s rest false) rfl
      have inbox : s.value.channel.inbox = taken ++ rest := looks.split
      replace split : rest = more ++ left := split
      simp only [calls, called, ended]
      have first : ¬ IsEnd x := by
        intro isEnd
        have final := looks.isEnd_iff.mpr (by rw [brought]; exact isEnd)
        rw [ended] at final
        cases final
      have news_more : (news (taken ++ more)).map tell = x :: (news more).map tell := by rw [later, brought]; rfl
      have news_inbox : (news s.value.channel.inbox).map tell = x :: (news rest).map tell := by
        rw [inbox, later, brought]
        rfl
      have length : (news (taken ++ more)).length = (news more).length + 1 := by
        have both := congrArg List.length news_more
        simpa using both
      refine ⟨taken ++ more, left, finished, by rw [inbox, split, List.append_assoc], ?_, ?_, ?_, ?_⟩
      · rw [state]
        rfl
      · rw [told, news_inbox, brought, take_nothingMore, take_nothingMore]
        simp [looked]
      · rw [accounted, news_more, length, brought, Nat.add_sub_add_right]
        rfl
      · simp [brought, isEnd_iff, first]

/-- A closed stream is asked in vain. -/
theorem close_closed (s : Logged EventStream) : (close s).2.value.closed = true := by
  show (if s.value.closed then s else _).value.closed = true
  cases h : s.value.closed <;> simp [h]

/-- A call on a stream that goes on takes one thing that is to be told, and what is passed over before it; or all that
is left, at the end. -/
theorem next_takes (going : s.value.closed = false) :
    ∃ passed, (∀ i ∈ passed, i.Idle) ∧
      ((s.value.channel.inbox = passed ∧ (next s).2.value.channel.inbox = []) ∨
        ∃ i, ¬ i.Idle ∧ s.value.channel.inbox = passed ++ i :: (next s).2.value.channel.inbox) := by
  obtain ⟨passed, idle, ⟨all, scanned⟩ | ⟨i, rest, found, split, meets, scanned⟩⟩ := scan_split s.value.channel.inbox
  · exact ⟨passed, idle, Or.inl ⟨all, by rw [next_open going scanned]; rfl⟩⟩
  · refine ⟨passed, idle, Or.inr ⟨i, ?_, by rw [next_open going scanned]; exact split⟩⟩
    rintro ⟨m, rfl, none_told⟩
    cases meets with
    | news told =>
      rw [none_told] at told
      cases told

end

/-! ## Delivery -/

/-- **What a stream delivers.** However often a stream is asked, and whatever comes in on its channel: the calls tell
the news in order of arrival, each once, then the end, and then that there is nothing more. At every moment exactly the
news of those messages have been told that were taken from the channel. A call takes one thing to be told and what is
passed over before it, whether it tells it as a notification or as a failure. A closed stream takes nothing more.
Nothing is sent by it all. -/
theorem delivers (channel : Channel) (log : List Effect) (n : Nat) :
    let told := (calls n ⟨{ channel }, log⟩).1
    let after := (calls n ⟨{ channel }, log⟩).2
    told = ((news channel.inbox).map tell ++ nothingMore n).take n ∧
      (∃ taken, channel.inbox = taken ++ after.value.channel.inbox ∧
        told = (news taken).map tell ++ nothingMore (n - (news taken).length)) ∧
      (after.value.closed = false → ∃ passed, (∀ i ∈ passed, i.Idle) ∧
        ((after.value.channel.inbox = passed ∧ (next after).2.value.channel.inbox = []) ∨
          ∃ i, ¬ i.Idle ∧ after.value.channel.inbox = passed ++ i :: (next after).2.value.channel.inbox)) ∧
      (∀ k, calls k (close after).2 = (nothingMore k, (close after).2)) ∧ after.log = log := by
  intro told after
  have start : (⟨{ channel }, log⟩ : Logged EventStream).value.closed = false := rfl
  obtain ⟨taken, rest, ended, split, state, in_order, accounted, -⟩ := calls_open start n
  have reached : after = looked ⟨{ channel }, log⟩ rest ended := state
  refine ⟨in_order, ⟨taken, ?_, accounted⟩, next_takes, fun k => calls_closed (close_closed after) k, ?_⟩
  · rw [reached]
    exact split
  · rw [reached]
    rfl

end EventStream

end Freebox
