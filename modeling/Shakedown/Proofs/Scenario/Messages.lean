/-
  Shakedown.Proofs.Scenario.Messages

  The messages of failed scenarios tell their causes apart.  Every message
  opens with words of the harness's own, which tell what kind of failure it
  is and of which operation; no such words are the start of others, so what
  the agent has a say in, which only comes after them, cannot make one kind
  of failure read like another.  Behind them, status, operation and text can
  be told from one another in the same way.
-/
import Shakedown.Proofs.Text.Decimal
import Shakedown.Scenario.Cause

namespace Shakedown

/-! ## Texts that are no start of others -/

namespace Text

variable {α : Type} {code : α → List Char}

/-- The texts of different things are no starts of one another. -/
def PrefixFree (code : α → List Char) : Prop :=
  ∀ a b, code a <+: code b → a = b

/-- Such a text can be told from what follows it. -/
theorem PrefixFree.split (h : PrefixFree code) {a b : α} {xs ys : List Char}
    (heq : code a ++ xs = code b ++ ys) : a = b ∧ xs = ys := by
  have hstart : code b <+: code a ++ xs := heq ▸ List.prefix_append (code b) ys
  -- One of two starts of the same text is the start of the other.
  have hab : a = b :=
    (List.prefix_or_prefix_of_prefix (List.prefix_append (code a) xs) hstart).elim (h a b)
      fun hba => (h b a hba).symm
  subst hab
  exact ⟨rfl, List.append_cancel_left heq⟩

namespace Decimal

theorem takeWhile_digits_append {c : Char} (hc : isDigit c = false) (n : Nat) (rest : List Char) :
    (digits n ++ c :: rest).takeWhile isDigit = digits n := by
  rw [List.takeWhile_append_of_pos (List.all_eq_true.mp (all_isDigit_digits n)),
    List.takeWhile_cons_of_neg (by rw [hc]; exact Bool.false_ne_true), List.append_nil]

/-- A number ends where something else than a digit follows. -/
theorem prefixFree_digits {c : Char} (hc : isDigit c = false) (cs : List Char) :
    PrefixFree fun n => digits n ++ c :: cs := by
  rintro m n ⟨rest, heq⟩
  have hdigits : digits m = digits n := by
    have htake := congrArg (List.takeWhile isDigit) heq
    rwa [List.append_assoc, List.cons_append, takeWhile_digits_append hc,
      takeWhile_digits_append hc] at htake
  have hm := read?_digits m
  rw [hdigits, read?_digits] at hm
  exact (Option.some.inj hm).symm

end Decimal

end Text

/-! ## Operations -/

namespace ScenarioCall

def all : List ScenarioCall := [.createContainer, .listTasks, .listContainers]

theorem mem_all (op : ScenarioCall) : op ∈ all := by
  cases op <;> decide

theorem prefixFree_text : Text.PrefixFree fun op : ScenarioCall => op.text.toList := by
  have hall : ∀ op ∈ all, ∀ op' ∈ all, op.text.toList <+: op'.text.toList → op = op' := by
    decide +kernel
  exact fun op op' => hall op op.mem_all op' op'.mem_all

end ScenarioCall

/-! ## Kinds of causes -/

namespace ScenarioCause

/-- The kind of a cause: all of it that is told before the agent has a say. -/
inductive Kind where
  | missingIdentifier
  | noTasksListed
  | unexpectedStatus
  | transport (operation : ScenarioCall)
  | malformedResponse (operation : ScenarioCall)
  | scopeNotEnforced (operation : ScenarioCall)
deriving DecidableEq

namespace Kind

/-- The words that the messages of a kind open with. -/
def opening : Kind → String
  | .missingIdentifier => "no identifier returned by POST /containers"
  | .noTasksListed => "no tasks listed by GET /tasks after container creation"
  | .unexpectedStatus => "unexpected HTTP "
  | .transport op => op.text ++ " failed before a response: "
  | .malformedResponse op => op.text ++ " answered 2xx with a malformed body: "
  | .scopeNotEnforced op => op.text ++ " succeeded with a token lacking `"

def all : List Kind :=
  [.missingIdentifier, .noTasksListed, .unexpectedStatus] ++
    ScenarioCall.all.flatMap fun op => [.transport op, .malformedResponse op, .scopeNotEnforced op]

theorem mem_all (k : Kind) : k ∈ all := by
  cases k with
  | missingIdentifier => decide
  | noTasksListed => decide
  | unexpectedStatus => decide
  | transport op => cases op <;> decide
  | malformedResponse op => cases op <;> decide
  | scopeNotEnforced op => cases op <;> decide

/-- No kind of failure opens like another one. -/
theorem prefixFree_opening : Text.PrefixFree fun k : Kind => k.opening.toList := by
  have hall : ∀ k ∈ all, ∀ k' ∈ all, k.opening.toList <+: k'.opening.toList → k = k' := by
    -- There are few enough kinds to try every pair of them.
    decide +kernel
  exact fun k k' => hall k k.mem_all k' k'.mem_all

end Kind

/-- The kind of a cause. -/
def kind : ScenarioCause → Kind
  | .missingIdentifier => .missingIdentifier
  | .noTasksListed => .noTasksListed
  | .unexpectedStatus _ _ _ => .unexpectedStatus
  | .transport op _ => .transport op
  | .malformedResponse op _ => .malformedResponse op
  | .scopeNotEnforced op _ => .scopeNotEnforced op

/-- What a message says after its opening. -/
def detail : ScenarioCause → String
  | .missingIdentifier => ""
  | .noTasksListed => ""
  | .unexpectedStatus op code body =>
    Text.Decimal.text code ++ (" from " ++ (op.text ++ (": " ++ body)))
  | .transport _ m => m
  | .malformedResponse _ m => m
  | .scopeNotEnforced _ scope => scope ++ "`"

theorem message_eq (c : ScenarioCause) : c.message = c.kind.opening ++ c.detail := by
  cases c with
  | missingIdentifier => decide +kernel
  | noTasksListed => decide +kernel
  | unexpectedStatus op code body =>
    unfold message kind Kind.opening detail
    simp only [String.append_assoc]
  | transport op m => rfl
  | malformedResponse op m => rfl
  | scopeNotEnforced op scope =>
    unfold message kind Kind.opening detail
    simp only [String.append_assoc]

theorem toList_detail_unexpectedStatus (op : ScenarioCall) (code : Nat) (body : String) :
    (unexpectedStatus op code body).detail.toList =
      (Text.Decimal.digits code ++ ' ' :: "from ".toList) ++
        (op.text.toList ++ (": ".toList ++ body.toList)) := by
  have hfrom : " from ".toList = ' ' :: "from ".toList := by decide +kernel
  rw [detail, String.toList_append, String.toList_append, String.toList_append,
    String.toList_append, hfrom, Text.Decimal.text, String.toList_ofList, List.append_assoc]

/-- Status, operation and body can be told from one another. -/
theorem unexpectedStatus_of_detail {op op' : ScenarioCall} {code code' : Nat} {body body' : String}
    (h : (unexpectedStatus op code body).detail = (unexpectedStatus op' code' body').detail) :
    unexpectedStatus op code body = unexpectedStatus op' code' body' := by
  have hchars := congrArg String.toList h
  rw [toList_detail_unexpectedStatus, toList_detail_unexpectedStatus] at hchars
  obtain ⟨rfl, hsource⟩ := (Text.Decimal.prefixFree_digits (by decide) _).split hchars
  obtain ⟨rfl, htext⟩ := ScenarioCall.prefixFree_text.split hsource
  have hbody : body = body' := String.toList_inj.mp (List.append_cancel_left htext)
  rw [hbody]

/-- A kind and what is said after its opening make up the cause. -/
theorem eq_of_detail {c c' : ScenarioCause} (hkind : c.kind = c'.kind)
    (hdetail : c.detail = c'.detail) : c = c' := by
  cases c <;> cases c' <;> cases hkind
  case missingIdentifier.missingIdentifier => rfl
  case noTasksListed.noTasksListed => rfl
  case unexpectedStatus.unexpectedStatus => exact unexpectedStatus_of_detail hdetail
  case transport.transport op m m' => exact congrArg (transport op) hdetail
  case malformedResponse.malformedResponse op m m' =>
    exact congrArg (malformedResponse op) hdetail
  case scopeNotEnforced.scopeNotEnforced op scope scope' =>
    exact congrArg (scopeNotEnforced op) ((String.append_left_inj _).mp hdetail)

/-- Causes that have one message are one cause, whatever bodies, messages and scopes the agent
puts into them. -/
theorem message_eq_iff (c c' : ScenarioCause) : c.message = c'.message ↔ c = c' := by
  constructor
  · intro h
    rw [message_eq, message_eq] at h
    have hchars := congrArg String.toList h
    rw [String.toList_append, String.toList_append] at hchars
    obtain ⟨hkind, hdetail⟩ := Kind.prefixFree_opening.split hchars
    exact eq_of_detail hkind (String.toList_inj.mp hdetail)
  · rintro rfl
    rfl

end ScenarioCause

end Shakedown
