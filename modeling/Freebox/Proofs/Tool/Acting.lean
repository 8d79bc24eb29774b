import Freebox.Proofs.Command.Address
import Freebox.Proofs.Tool.Answer
import Freebox.Proofs.Tool.Blame

/-!
# `Freebox.Proofs.Tool.Acting` — what a tool acts on, and what it says that it acted on

Three tools take the number of a rule or of a machine, act on it, and report it. Numbers are cut toward nought and texts
are read, and the outcome is what the address holds; but what is reported is the argument as it came. The two are the
same exactly if the argument is a number without a fraction, or a truth value.

## Contents
- `Binary64.Equals`, `Json.Equals`, `Json.Equals.toInteger`: values that are integers, and how these are taken.
- `Operation.run_last`, `runTool_operation`: the last request of an operation, and of a tool that runs one.
- `Act`: the three tools. `Act.planned`, `Act.plan_of_ok`: what they plan.
- `acts_reported`: what they act on, and what they report. `fraction_reported`: a number with a fraction.
-/

namespace Freebox

open Resource

/-! ## Values that are integers -/

/-- A number that is an integer: `mantissa * 2 ^ exponent` is, both sides multiplied if the exponent is negative. -/
def Binary64.Equals : Binary64 → Int → Prop
  | .finite negative m e, n => signed negative (m * 2 ^ e.toNat) = n * 2 ^ (-e).toNat
  | _, _ => False

/-- A value that is an integer: a number without a fraction, or a truth value. -/
def Json.Equals : Json → Int → Prop
  | .int m, n => m = n
  | .bool b, n => (if b then 1 else 0) = n
  | .real x, n => x.Equals n
  | _, _ => False

/-- Nothing is cut from a multiple. -/
theorem Binary64.signed_div {negative : Bool} {m k : Nat} {n : Int} (some_divisor : 0 < k)
    (multiple : signed negative m = n * k) : signed negative (m / k) = n := by
  have divisor : (k : Int) ≠ 0 := by omega
  cases negative with
  | false =>
    have value : (m : Int) = n * k := multiple
    show ((m / k : Nat) : Int) = n
    rw [Int.natCast_ediv, value, Int.mul_ediv_cancel n divisor]
  | true =>
    have value : (m : Int) = -n * k := by
      have negated : -(m : Int) = n * k := multiple
      rw [Int.neg_mul, ← negated, Int.neg_neg]
    show -((m / k : Nat) : Int) = n
    rw [Int.natCast_ediv, value, Int.mul_ediv_cancel (-n) divisor, Int.neg_neg]

/-- A number that is an integer is taken as that integer. -/
theorem Binary64.Equals.truncated {negative : Bool} {m : Nat} {e n : Int} (h : (Binary64.finite negative m e).Equals n) :
    truncated negative m e = n := by
  have multiple : signed negative (m * 2 ^ e.toNat) = n * 2 ^ (-e).toNat := h
  unfold Binary64.truncated
  by_cases whole : 0 ≤ e
  · have no_fraction : (-e).toNat = 0 := by omega
    rw [if_pos whole]
    rw [no_fraction] at multiple
    simpa using multiple
  · have no_power : e.toNat = 0 := by omega
    rw [if_neg whole]
    rw [no_power] at multiple
    exact signed_div (Nat.pow_pos Nat.two_pos) (by simpa using multiple)

theorem Json.Equals.toInteger {v : Json} {n : Int} (h : v.Equals n) : v.toInteger = .ok n := by
  cases v with
  | int m => exact congrArg Except.ok h
  | bool b => exact congrArg Except.ok h
  | real x =>
    cases x with
    | finite negative m e => exact congrArg Except.ok (Binary64.Equals.truncated h)
    | nan | infinite => exact absurd h id
  | _ => exact absurd h id

/-- A value is the integer that it is taken as exactly if it is an integer at all. -/
theorem Json.equals_iff {v : Json} {n : Int} (taken : v.toInteger = .ok n) : v.Equals n ↔ ∃ m, v.Equals m := by
  constructor
  · exact fun h => ⟨n, h⟩
  · rintro ⟨m, h⟩
    obtain rfl : m = n := Except.ok.inj (h.toInteger.symm.trans taken)
    exact h

/-! ## The last request -/

/-- A call under a session fails without an attempt at its end, or does at its end what an attempt does. The address
of the client is the same by then, and nothing is taken back that was asked for. -/
theorem call_last (method : String) (path : Text) (parcel : Parcel) (s : State) :
    (∃ f t, call method path true parcel s = (.error f, t)) ∨
      ∃ token u, Links s u ∧ call method path true parcel s = perform method path (some token) parcel u := by
  have handshakes (u : State) (kept : Links s u) : Links s (handshake u).2 := kept.trans (handshake_links u)
  have refusals (token : Text) (u : State) (e : BoxError) (cause : Option BoxError) (w : State) (kept : Links s u)
      (refused : perform method path (some token) parcel u = (.error (.box e cause), w)) : Links s w := by
    rw [perform_apply] at refused
    obtain ⟨-, rfl⟩ := Prod.mk.inj refused
    exact kept.trans (.of_request _ u)
  rcases withSession_last handshakes refusals (refl_of Links s) with ⟨f, t, failed, -⟩ | attempt
  · exact Or.inl ⟨f, t, failed⟩
  · exact Or.inr attempt

/-- **An operation that has an answer** has made its own request last. -/
theorem Operation.run_last {o : Operation} {s t : State} {answer : Answer} (told : o.run s = (.ok answer, t)) :
    ∃ made r, t.network.requests = s.network.requests ++ made ++ [r] ∧ r.method = o.method ∧
      r.url = s.client.url o.path := by
  let parcel : Parcel := { payload := o.payload, form := o.form }
  have called : o.run s = ((call o.method o.path true parcel s).1.bind fun e => o.reading.read e.result,
      (call o.method o.path true parcel s).2) := Attempt.bind_lift _ _ s
  rw [called] at told
  rcases call_last o.method o.path parcel s with ⟨f, u, failed⟩ | ⟨token, u, kept, attempt⟩
  · -- without an attempt at its end there is no answer
    rw [failed] at told
    cases told
  · let r := u.client.request o.method o.path (some token) parcel
    obtain ⟨-, ended⟩ := Prod.mk.inj told
    rw [attempt, perform_apply] at ended
    obtain ⟨news, asked, -⟩ := kept.asked
    have reached : u.network.requests = s.network.requests ++ news.filterMap Asking.request? := by
      rw [State.requests_eq, State.requests_eq, asked, List.filterMap_append]
    refine ⟨news.filterMap Asking.request?, r, ?_, rfl, ?_⟩
    · rw [← ended, State.did_requests, reached]
    · show (u.client.base : Text) ++ "/" ++ o.path = (s.client.base : Text) ++ "/" ++ o.path
      rw [kept.base]

/-- A tool that runs an operation reports its answer. -/
theorem runTool_operation {tool : Tool} {arguments : Members} {o : Operation} {report : Answer → Json}
    (planned : tool.plan arguments = .ok (.operation o report)) (s : State) :
    runTool tool.name arguments s = ((o.run s).1.map report, (o.run s).2) := by
  rw [runTool, Tool.ofName?_name]
  simp only [planned]
  exact Attempt.map_apply o.run report s

/-! ## What is acted on -/

/-- The tools that act on what a number stands for. -/
inductive Act where
  | deletion
  | start
  | stop

namespace Act

def tool : Act → Tool
  | deletion => .deletePortForwarding
  | start => .startVirtualMachine
  | stop => .stopVirtualMachine

/-- The word that a tool reports by. -/
def word : Act → String
  | deletion => "deleted"
  | start => "started"
  | stop => "stopped"

/-- The method of what is done to a rule or a machine. -/
def method : Act → String
  | deletion => "DELETE"
  | start | stop => "POST"

/-- The path of what is done to a rule or a machine. -/
def path (act : Act) (arguments : Members) (n : Int) : Text :=
  match act with
  | deletion => ("fw/redir/" ++ Whole.text n : String)
  | start => ("vm/" ++ Whole.text n : String) ++ "/start"
  | stop => ("vm/" ++ Whole.text n : String) ++ if (arguments.get "force").isTrue then "/stop" else "/powerbutton"

/-- The operation of a tool. -/
def operation (act : Act) (arguments : Members) (n : Int) : Operation :=
  match act with
  | deletion => PortForwarding.delete n
  | start => VirtualMachine.start n
  | stop => if (arguments.get "force").isTrue then VirtualMachine.kill n else VirtualMachine.stop n

variable {act : Act} {arguments : Members} {n : Int}

theorem operation_asks (act : Act) (arguments : Members) (n : Int) :
    (act.operation arguments n).method = act.method ∧ (act.operation arguments n).path = act.path arguments n := by
  cases act with
  | deletion | start => exact ⟨rfl, rfl⟩
  | stop =>
    unfold operation path
    dsimp only
    split <;> exact ⟨rfl, rfl⟩

/-- **What the tools plan.** The argument is taken as an integer, and it is reported as it came. -/
theorem planned (act : Act) (arguments : Members) :
    act.tool.plan arguments = (Tool.argument arguments "id").bind fun v => v.toInteger.map fun n =>
      Tool.actedOn (act.operation arguments n) act.word v := by
  cases act <;> rfl

theorem plan_of_ok {plan : Plan} (told : act.tool.plan arguments = .ok plan) :
    ∃ v n, arguments.get? "id" = some v ∧ v.toInteger = .ok n ∧
      plan = Tool.actedOn (act.operation arguments n) act.word v := by
  rw [planned] at told
  cases found : Tool.argument arguments "id" with
  | error f =>
    rw [found] at told
    cases told
  | ok v =>
    rw [found] at told
    cases taken : v.toInteger with
    | error f =>
      simp only [Except.bind, taken] at told
      cases told
    | ok n =>
      simp only [Except.bind, taken] at told
      exact ⟨v, n, Tool.argument_found found, taken, (Except.ok.inj told).symm⟩

/-- The tools report by the argument, and nothing of what the box answers. -/
theorem report_of_ok {s t : State} {v : Json} (told : runTool act.tool.name arguments s = (.ok v, t)) :
    ∃ id n answer, arguments.get? "id" = some id ∧ id.toInteger = .ok n ∧
      (act.operation arguments n).run s = (.ok answer, t) ∧ v = .obj [("success", .bool true), (act.word, id)] := by
  cases plans : act.tool.plan arguments with
  | error f =>
    rw [runTool_unplanned plans] at told
    cases told
  | ok plan =>
    obtain ⟨id, n, found, taken, rfl⟩ := plan_of_ok plans
    rw [runTool_operation plans] at told
    rcases ended : (act.operation arguments n).run s with ⟨f | answer, u⟩
    · rw [ended] at told
      cases told
    · rw [ended] at told
      obtain ⟨reported, rfl⟩ := Prod.mk.inj told
      exact ⟨id, n, answer, found, taken, ended, (Except.ok.inj reported).symm⟩

end Act

section
variable {act : Act} {arguments : Option Members} {s t : State} {v : Json}

/-- **What a tool acts on, and what it reports.** A deletion of a rule, a start or a stop of a machine that is told to
have succeeded was the last request, at the address of the rule or the machine of some number. The number is what the
argument is taken as, and the argument is reported as it came. So what is reported is the number that was acted on
exactly if the argument is an integer at all: not if it is a text, and not if it has a fraction. -/
theorem acts_reported (told : runTool act.tool.name (arguments.getD []) s = (.ok v, t)) :
    callTool act.tool.name arguments s = (.ok v.indented, t) ∧
    ∃ id n, (arguments.getD []).get? "id" = some id ∧ id.toInteger = .ok n ∧
      v = .obj [("success", .bool true), (act.word, id)] ∧
      (∃ made r, t.network.requests = s.network.requests ++ made ++ [r] ∧
        r.method = act.method ∧ r.url = s.client.url (act.path (arguments.getD []) n)) ∧
      (id.Equals n ↔ ∃ m, id.Equals m) := by
  obtain ⟨id, n, answer, found, taken, ran, rfl⟩ := Act.report_of_ok told
  obtain ⟨made, r, requests, method, url⟩ := Operation.run_last ran
  obtain ⟨its_method, its_path⟩ := act.operation_asks (arguments.getD []) n
  rw [its_method] at method
  rw [its_path] at url
  refine ⟨?_, id, n, found, taken, rfl, ⟨made, r, requests, method, url⟩, Json.equals_iff taken⟩
  rw [callTool_apply, told]
  rfl

/-- A machine that is stopped at once: its number is given as a text, which is taken as a number and reported as a
text. -/
theorem text_reported :
    let client : Client := { Client.create "http://fbx.test" "v8" (some "app") (some "secret") (.int 10) true with
      session := some ⟨"token", ⟨0⟩⟩ }
    let body := "\x7b\"success\": true\x7d"
    let reply : Reply := .received ⟨200, [], [Utf8.encode body.toList], none⟩
    let s : State := { client, network := { peer := ⟨fun _ _ => reply, fun _ => .refused .closedNormally⟩, now := ⟨0⟩ } }
    let arguments : Members := [("id", .str " 0_7"), ("force", .bool true)]
    let v := Json.obj [("success", .bool true), ("stopped", .str " 0_7")]
    runTool Act.stop.tool.name arguments s = (.ok v, (runTool Act.stop.tool.name arguments s).2) ∧
      ∃ made r, (runTool Act.stop.tool.name arguments s).2.network.requests = s.network.requests ++ made ++ [r] ∧
        r.url = s.client.url "vm/7/stop" := by
  intro client body reply s arguments v
  have result : (runTool Act.stop.tool.name arguments s).1.toOption = some v := by decide +kernel
  have told : runTool Act.stop.tool.name arguments s = (.ok v, (runTool Act.stop.tool.name arguments s).2) :=
    Prod.ext (Attempt.ok_of_toOption result) rfl
  obtain ⟨-, id, n, found, taken, -, ⟨made, r, requests, -, url⟩, -⟩ := @acts_reported .stop (some arguments) s _ v told
  obtain rfl : Json.str " 0_7" = id := Option.some.inj found
  have seven : (Json.str " 0_7").toInteger = .ok 7 := by decide +kernel
  obtain rfl : 7 = n := Except.ok.inj (seven.symm.trans taken)
  have path : Act.stop.path arguments 7 = "vm/7/stop" := by decide +kernel
  exact ⟨told, made, r, requests, by rw [← path]; exact url⟩

/-- **A rule that is not the one reported.** The rule with the number two is deleted, and what is reported to be deleted
is a number that no rule can have. -/
theorem fraction_reported :
    let client : Client := { Client.create "http://fbx.test" "v8" (some "app") (some "secret") (.int 10) true with
      session := some ⟨"token", ⟨0⟩⟩ }
    let body := "\x7b\"success\": true\x7d"
    let reply : Reply := .received ⟨200, [], [Utf8.encode body.toList], none⟩
    let s : State := { client, network := { peer := ⟨fun _ _ => reply, fun _ => .refused .closedNormally⟩, now := ⟨0⟩ } }
    let given := Json.real (.ofDecimal false 29 (-1))
    let called := runTool "delete_port_forwarding" [("id", given)] s
    called.1.toOption = some (.obj [("success", .bool true), ("deleted", given)]) ∧
      called.2.network.requests.map (fun r => (r.method, r.url)) = [("DELETE", s.client.url "fw/redir/2")] ∧
      ∀ n, ¬ given.Equals n := by
  intro client body reply s given called
  refine ⟨by decide +kernel, by decide +kernel, fun n whole => ?_⟩
  have value : Binary64.ofDecimal false 29 (-1) = .finite false 6530219459687219 (-51) := by decide +kernel
  have multiple : (Binary64.finite false 6530219459687219 (-51)).Equals n := by
    rw [← value]
    exact whole
  have exactly : (6530219459687219 : Int) = n * 2251799813685248 := multiple
  omega

end

end Freebox
