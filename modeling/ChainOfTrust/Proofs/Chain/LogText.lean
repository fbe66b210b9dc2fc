import Mathlib.Tactic.Common
import ChainOfTrust.Logged

/-!
# The texts of a log

What a reader sees of the steps, roots, cycles and failed hops that a validation reports.

* `Logged.texts`, `Logged.lines` : what is read of one level of a log, and all of it;
* `HopFailure.message_injective` : the text of a reason tells it;
* `stepText`, `rootText`, `cycleText`, `failureText` : how a step, a root, a cycle and a failed hop are
  put, `message_climbed` and the like : that they are put so, whatever the words of the decoders;
* `filter_texts` : only texts about failed hops begin as `saysFailed` has it.
-/

namespace ChainOfTrust

set_option autoImplicit false

def Event.isHopFailure : Event → Bool
  | hopFailed .. => true
  | _ => false

namespace Logged

variable {α : Type}

def ofLevel (l : Level) (x : Logged α) : List Event := x.events.filter (·.level = l)

def hopFailures (x : Logged α) : List Event := x.events.filter Event.isHopFailure

/-- What is read of one level, where decoders have the words `w`. -/
def texts (w : Wording) (l : Level) (x : Logged α) : List String :=
  (x.ofLevel l).map fun e => e.message w

/-- The whole log. -/
def lines (w : Wording) (x : Logged α) : List String := x.events.map fun e => e.line w

end Logged

/-! ## Reasons -/

namespace HopFailure

/-- What a reason begins with. -/
def initial : HopFailure → Char
  | .signatureMismatch => 's'
  | .incompatibleKey _ => 'i'
  | .notYetValid | .expired => 'c'
  | .unrecognizedCriticalExtension _ => 'u'

theorem head?_message (reason : HopFailure) : reason.message.toList.head? = some reason.initial := by
  cases reason with
  | signatureMismatch | notYetValid | expired => decide
  | incompatibleKey algorithm =>
    show (_ ++ algorithm).toList.head? = _
    rw [String.toList_append]
    rfl
  | unrecognizedCriticalExtension oid =>
    show (_ ++ oid).toList.head? = _
    rw [String.toList_append]
    rfl

/-- The text of a reason tells it. -/
theorem message_injective : Function.Injective HopFailure.message := by
  intro a b h
  have hinitial : a.initial = b.initial := by
    rw [← Option.some.injEq, ← head?_message, ← head?_message, h]
  cases a with
  | signatureMismatch => cases b <;> first | rfl | exact absurd hinitial (by simp [initial])
  | incompatibleKey algorithm =>
    cases b with
    | incompatibleKey algorithm' =>
      exact congrArg incompatibleKey ((String.append_right_inj _).mp h)
    | _ => exact absurd hinitial (by simp [initial])
  | notYetValid =>
    cases b with
    | notYetValid => rfl
    | expired => exact absurd h (by decide)
    | _ => exact absurd hinitial (by simp [initial])
  | expired =>
    cases b with
    | notYetValid => exact absurd h (by decide)
    | expired => rfl
    | _ => exact absurd hinitial (by simp [initial])
  | unrecognizedCriticalExtension oid =>
    cases b with
    | unrecognizedCriticalExtension oid' =>
      exact congrArg unrecognizedCriticalExtension ((String.append_right_inj _).mp h)
    | _ => exact absurd hinitial (by simp [initial])

end HopFailure

namespace Chain

variable {s c r : Certificate} {reason reason' : HopFailure} {e : Event} {text : String}

/-! ## Texts -/

def stepText (s c : Certificate) : String :=
  "validating [" ++ s.subject.text ++ "] via: [" ++ c.subject.text ++ "]"

def rootText (r : Certificate) : String := "validating root [" ++ r.subject.text ++ "]"

def cycleText (c : Certificate) : String :=
  "issuer cycle: [" ++ c.subject.text ++ "] (" ++ c.fingerprint.hex ++
    ") was already visited, giving up"

/-- The reason stands behind both names. -/
def failureText (s c : Certificate) (reason : HopFailure) : String :=
  "validation of [" ++ s.subject.text ++ "] via [" ++ c.subject.text ++ "] failed: " ++
    reason.message ++ ", checking next candidate"

theorem message_climbed (w : Wording) : (Event.climbed s c).message w = stepText s c := by
  have hfront : "validating [" = "validating " ++ "[" := by decide
  have hmiddle : "] via: [" = "]" ++ (" via: " ++ "[") := by decide
  unfold stepText
  rw [hfront, hmiddle]
  show "validating " ++ Event.bracketed s ++ " via: " ++ Event.bracketed c = _
  simp only [Event.bracketed, String.append_assoc]

theorem message_hopFailed (w : Wording) :
    (Event.hopFailed s c reason).message w = failureText s c reason := by
  have hfront : "validation of [" = "validation of " ++ "[" := by decide
  have hmiddle : "] via [" = "]" ++ (" via " ++ "[") := by decide
  have hback : "] failed: " = "]" ++ " failed: " := by decide
  unfold failureText
  rw [hfront, hmiddle, hback]
  show "validation of " ++ Event.bracketed s ++ " via " ++ Event.bracketed c ++ " failed: " ++
    reason.message ++ ", checking next candidate" = _
  simp only [Event.bracketed, String.append_assoc]

theorem message_reachedRoot (w : Wording) : (Event.reachedRoot r).message w = rootText r := by
  have hfront : "validating root [" = "validating root " ++ "[" := by decide
  unfold rootText
  rw [hfront]
  show "validating root " ++ Event.bracketed r = _
  simp only [Event.bracketed, String.append_assoc]

theorem message_issuerCycle (w : Wording) : (Event.issuerCycle c).message w = cycleText c := by
  have hfront : "issuer cycle: [" = "issuer cycle: " ++ "[" := by decide
  have hmiddle : "] (" = "]" ++ " (" := by decide
  unfold cycleText
  rw [hfront, hmiddle]
  show "issuer cycle: " ++ Event.bracketed c ++ " (" ++ c.fingerprint.hex ++
    ") was already visited, giving up" = _
  simp only [Event.bracketed, String.append_assoc]

theorem failureText_injective (h : failureText s c reason = failureText s c reason') :
    reason = reason' := by
  unfold failureText at h
  rw [String.append_left_inj, String.append_right_inj] at h
  exact HopFailure.message_injective h

/-! ## Failed hops -/

/-- The text begins like one about a failed hop. -/
def saysFailed (text : String) : Bool := "validation of [".toList.isPrefixOf text.toList

theorem saysFailed_failureText (s c : Certificate) (reason : HopFailure) :
    saysFailed (failureText s c reason) = true := by
  unfold saysFailed failureText
  rw [String.append_assoc, String.append_assoc, String.append_assoc, String.append_assoc,
    String.append_assoc, String.toList_append]
  exact List.isPrefixOf_iff_prefix.mpr (List.prefix_append _ _)

theorem saysFailed_of_bracket (h : text.toList.head? = some '[') : saysFailed text = false := by
  unfold saysFailed
  rcases htext : text.toList with _ | ⟨d, rest⟩
  · rfl
  · rw [htext, List.head?_cons, Option.some.injEq] at h
    rw [h]
    rfl

theorem head?_message_notSelfSigned (w : Wording) :
    ((Event.notSelfSigned c reason).message w).toList.head? = some '[' := by
  show (("[" ++ _ ++ "]") ++ " is not self-signed: " ++ _).toList.head? = _
  rw [String.append_assoc, String.append_assoc, String.append_assoc, String.toList_append]
  rfl

theorem saysFailed_message (w : Wording) (he : e.level = .trace) :
    saysFailed (e.message w) = e.isHopFailure := by
  cases e with
  | hopFailed s c reason =>
    rw [message_hopFailed]
    exact saysFailed_failureText s c reason
  | notSelfSigned c reason => exact saysFailed_of_bracket (head?_message_notSelfSigned w)
  | _ => cases he

theorem level_of_isHopFailure (h : e.isHopFailure = true) : e.level = .trace := by
  cases e with
  | hopFailed => rfl
  | _ => cases h

theorem filter_texts {α : Type} (w : Wording) (x : Logged α) :
    (x.texts w .trace).filter saysFailed = x.hopFailures.map fun e => e.message w := by
  have hsame : ∀ e : Event, (saysFailed (e.message w) && decide (e.level = .trace)) =
      e.isHopFailure := by
    intro e
    by_cases he : e.level = .trace
    · rw [saysFailed_message w he, decide_eq_true he, Bool.and_true]
    · rw [decide_eq_false he, Bool.and_false, eq_comm, Bool.eq_false_iff]
      exact fun h => he (level_of_isHopFailure h)
  unfold Logged.texts Logged.ofLevel Logged.hopFailures
  rw [List.filter_map, List.filter_filter]
  exact congrArg _ (List.filter_congr fun e _ => hsame e)

end Chain

end ChainOfTrust
