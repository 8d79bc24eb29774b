import Freebox.Discovery
import Freebox.Proofs.Attempt.Guarantee
import Freebox.Proofs.Envelope.Refusal
import Freebox.Resource.Operation

/-!
# `Freebox.Proofs.Envelope.Fault` — which faults a reply may end in

A reply may be at fault in three ways: its body has no text in the charset that its media type tells, its code cannot be
looked up, or a number in its result is beyond all integers. A member that is missing or of a wrong kind is no fault of
a reply: decoding makes an error of the box of it.

## Contents
- `Fault.isOfCharset`, `Received.text_fails`: bodies without a text.
- `Failure.Unmatched`, `Layout.decode_fails`, `Reading.read_fails`: results.
- `Received.Accounts`, `Received.envelope_fails`, `Received.description_fails`: what is read from replies.
-/

namespace Freebox

/-! ## Texts -/

/-- The faults of a charset that is told for a body. -/
def Fault.isOfCharset : Fault → Prop
  | nullInName | refused _ | brokenCharset | brokenCharsetName _ | beyondAscii _ _ | unmarked _ | octetsForText
  | octetsForLetters | unordered _ _ | notInteger _ => True
  | _ => False

namespace Mime

theorem arrange_fails (ss : List Segment) : FailsIn Fault.isOfCharset (arrange ss) := by
  cases ss with
  | nil => exact .ok _
  | cons s ss =>
    by_cases alike : ss.all (fun t => t.number.isSome == s.number.isSome) = true
    · rw [arrange, if_pos alike]
      exact .ok _
    · rw [arrange, if_neg alike]
      cases s.number.isSome <;> exact .error trivial

theorem joinGroups_fails (groups : List (List Char × List Segment)) :
    FailsIn Fault.isOfCharset (joinGroups groups) := by
  induction groups with
  | nil => exact .ok _
  | cons group rest ih =>
    rw [joinGroups]
    cases arranged : arrange group.2 with
    | error f => exact .error ((arrange_fails _).failure arranged)
    | ok ordered =>
      cases later : joinGroups rest with
      | error f => exact .error (ih.failure later)
      | ok more => exact .ok _

theorem sorted_add_fails (sorted : Sorted) (name value : List Char) :
    FailsIn Fault.isOfCharset (sorted.add name value) := by
  unfold Sorted.add
  rcases segmentName? name with - | ⟨word, digits⟩
  · exact .ok _
  · dsimp only
    by_cases many : Whole.maxDigits < digits.length
    · rw [segmentNumber, if_pos many]
      exact .error trivial
    · rw [segmentNumber, if_neg many]
      exact .ok _

theorem sortOut_fails (sorted : Sorted) (pieces : List (List Char × List Char)) :
    FailsIn Fault.isOfCharset (sortOut sorted pieces) := by
  induction pieces generalizing sorted with
  | nil => exact .ok _
  | cons piece rest ih =>
    rw [sortOut]
    cases added : sorted.add piece.1 piece.2 with
    | error f => exact .error ((sorted_add_fails _ _ _).failure added)
    | ok more => exact ih more

theorem parameters_fails (header : List Char) : FailsIn Fault.isOfCharset (parameters header) := by
  unfold parameters
  cases (pieces false false header).map nameAndValue with
  | nil => exact .ok _
  | cons first rest =>
    dsimp only
    cases sort : sortOut {} rest with
    | error f => exact .error ((sortOut_fails _ _).failure sort)
    | ok sorted =>
      dsimp only
      cases joined : joinGroups sorted.groups with
      | error f => exact .error ((joinGroups_fails _).failure joined)
      | ok more => exact .ok _

theorem parameter_fails (name header : String) : FailsIn Fault.isOfCharset (parameter name header) := by
  unfold parameter
  cases told : parameters header.toList with
  | error f => exact .error ((parameters_fails _).failure told)
  | ok ps => exact .ok _

theorem coding_fails (name : List Char) : FailsIn Fault.isOfCharset (coding name) := by
  unfold coding
  cases name.contains '\x00' with
  | true => exact .error trivial
  | false => exact .ok _

theorem readPunycode_fails (bs : Bytes) : FailsIn Fault.isOfCharset (readPunycode bs) := by
  unfold readPunycode
  cases Punycode.lenient bs with
  | error wrong => exact .error trivial
  | ok t => exact .ok _

theorem name_fails (v : Value) : FailsIn Fault.isOfCharset v.name := by
  cases v with
  | plain s => exact .ok _
  | extended charset s =>
    unfold Value.name
    dsimp only
    cases told : coding ((charset.filter (· != [])).getD "us-ascii".toList) with
    | error f => exact .error ((coding_fails _).failure told)
    | ok known =>
      rcases known with - | (known | - | - | - | -)
      case some.text =>
        dsimp only
        cases known.strict? (rawOctets s) with
        | none => exact .ok _
        | some t =>
          dsimp only
          cases known.isBroken (rawOctets s) with
          | true => exact .error trivial
          | false => exact .ok _
      all_goals exact .ok _

theorem charsetName_fails (type : String) : FailsIn Fault.isOfCharset (charsetName type) := by
  refine FailsIn.bind (parameter_fails "charset" type) fun found => ?_
  cases found with
  | none => exact .ok _
  | some v => exact FailsIn.bind (name_fails v) fun _ => .ok _

theorem readBody_fails (name : Option (List Char)) (body : Bytes) :
    FailsIn Fault.isOfCharset (readBody name body) := by
  unfold readBody
  cases name with
  | none => exact .ok _
  | some n =>
    refine FailsIn.bind (coding_fails n) fun known => ?_
    rcases known with - | (charset | - | reason | - | -)
    · exact .ok _
    · dsimp only
      cases charset.unmarkedWidth? body with
      | some width => exact .error trivial
      | none =>
        cases charset.isBroken body with
        | true => exact .error trivial
        | false =>
          cases charset.isOverfull body with
          | true => exact .error trivial
          | false => exact .ok _
    · exact readPunycode_fails body
    · exact .error trivial
    · exact .error trivial
    · exact .error trivial

end Mime

/-- A body that has no text is at fault for its charset. -/
theorem Received.text_fails (r : Received) : FailsIn Fault.isOfCharset r.text := by
  unfold text
  by_cases empty : r.body = []
  · rw [if_pos empty]
    exact .ok _
  · rw [if_neg empty]
    cases header? r.headers "content-type" with
    | none => exact FailsIn.bind (.ok none) fun name => Mime.readBody_fails name r.body
    | some type => exact FailsIn.bind (Mime.charsetName_fails type) fun name => Mime.readBody_fails name r.body

/-! ## Results -/

/-- A failure is an error of the box, or a fault that decoding does not make one of. -/
def Failure.Unmatched : Failure → Prop
  | .box _ _ => True
  | .fault f => f.isMismatch = false

namespace Layout

variable (l : Layout)

theorem wrap_unmatched (e : Failure) : (l.wrap e).Unmatched := by
  cases e with
  | box e cause => trivial
  | fault f =>
    cases mismatch : f.isMismatch with
    | true => simp [wrap, mismatch, Failure.ofDecoding, Failure.ofBox, Failure.Unmatched]
    | false => simp [wrap, mismatch, Failure.Unmatched]

theorem decode_fails (v : Json) : FailsIn Failure.Unmatched (l.decode v) := by
  cases v with
  | obj ms => exact EndsIn.any.mapError fun e _ => l.wrap_unmatched e
  | _ => exact .error trivial

theorem decodeItems_fails (vs : List Json) : FailsIn Failure.Unmatched (l.decodeItems vs) := by
  induction vs with
  | nil => exact .ok _
  | cons v vs ih =>
    rw [decodeItems]
    cases first : l.decode v with
    | error e => exact .error ((l.decode_fails v).failure first)
    | ok r =>
      cases rest : l.decodeItems vs with
      | error e => exact .error (ih.failure rest)
      | ok rs => exact .ok _

theorem decodeList_fails (v : Json) : FailsIn Failure.Unmatched (l.decodeList v) := by
  cases v with
  | null => exact .ok _
  | arr vs => exact l.decodeItems_fails vs
  | _ => exact .error trivial

end Layout

/-- What a null result is read as can be read. -/
def Reading.Prepared : Reading → Prop
  | .recordOrEmpty l => ∃ r, l.ofMembers [] = .ok r
  | _ => True

/-- Reading a result fails by an error of the box, unless a number in it is beyond all integers. -/
theorem Reading.read_fails {reading : Reading} (prepared : reading.Prepared) (result : Json) :
    FailsIn Failure.Unmatched (reading.read result) := by
  have decoding {x : Except DecodingError Json} : FailsIn Failure.Unmatched (x.mapError Failure.ofDecoding) :=
    EndsIn.any.mapError fun _ _ => trivial
  cases reading with
  | nothing => exact .ok _
  | record l => exact (l.decode_fails result).map _
  | recordOrEmpty l =>
    refine FailsIn.map ?_ _
    by_cases absent : result = .null
    · obtain ⟨r, empty⟩ := prepared
      rw [if_pos absent, empty]
      exact .ok r
    · rw [if_neg absent]
      exact l.decode_fails result
  | records l => exact (l.decodeList_fails result).map _
  | text | path | task => exact decoding.map _

/-! ## Replies -/

namespace Received

variable (r : Received)

/-- A reply accounts for a failure: it is an error of the box, or a fault for a body without a text, for a code that
cannot be looked up, or for a number beyond all integers. -/
def Accounts : Failure → Prop
  | .box _ _ => True
  | .fault f => r.text = .error f ∨ (∃ kind, f = .unhashable kind) ∨ f.isMismatch = false

theorem Accounts.of_unmatched {e : Failure} (h : e.Unmatched) : r.Accounts e := by
  cases e with
  | box e cause => trivial
  | fault f => exact Or.inr (Or.inr h)

theorem statusFailure_accounts (cause : Option BoxError) : r.Accounts (r.statusFailure cause) := by
  unfold statusFailure
  cases text : r.text with
  | ok body => trivial
  | error f => exact Or.inl text

theorem refused_accounts (e : Envelope) (status : Option Int) : r.Accounts (e.refused status) := by
  rw [Envelope.refused, refusalKind_ofCode]
  cases e.errorCode.isKey with
  | true => trivial
  | false => exact Or.inr (Or.inl ⟨_, rfl⟩)

theorem envelope_fails : FailsIn r.Accounts r.envelope := by
  unfold envelope
  cases Envelope.parse (.octets r.body) with
  | error e =>
    refine .error ?_
    cases isSuccess r.status with
    | true => trivial
    | false => exact r.statusFailure_accounts _
  | ok e =>
    dsimp only
    split
    · split
      · exact .ok e
      · exact .error (r.statusFailure_accounts none)
    · split
      · exact .error (r.statusFailure_accounts none)
      · exact .error (r.refused_accounts e _)

theorem description_fails : FailsIn r.Accounts r.description := by
  unfold description
  split
  · cases Json.read (.octets r.body) with
    | error e =>
      cases text : r.text with
      | ok body => exact .error trivial
      | error f => exact .error (Or.inl text)
    | ok v => exact (Resource.apiVersion.decode_fails v).imp (fun _ => id) fun _ => .of_unmatched r
  · exact .error (r.statusFailure_accounts none)

end Received

end Freebox
