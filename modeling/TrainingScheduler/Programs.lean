import Mathlib.Data.List.DropRight
import Mathlib.Tactic.TypeStar

/-!
# Programs, machines and calls

What the models of the components share: programs that may raise, runs of a machine under a
condition, calls over an unreliable network, and the white space of a text.
-/

namespace TrainingScheduler

/-- `str.isspace` of one character. -/
def isSpace (char : Char) : Bool :=
  let code := char.toNat
  9 ≤ code && code ≤ 13 || 28 ≤ code && code ≤ 32 || 0x2000 ≤ code && code ≤ 0x200a ||
    [0x85, 0xa0, 0x1680, 0x2028, 0x2029, 0x202f, 0x205f, 0x3000].contains code

/-- `str.strip`. -/
def strip (text : List Char) : List Char := (text.dropWhile isSpace).rdropWhile isSpace

/-! ## Programs that may raise -/

section

variable {ε α β : Type} {program : Except ε α}

theorem bind_eq_ok {next : α → Except ε β} {value : β} (done : program >>= next = .ok value) :
    ∃ middle, program = .ok middle ∧ next middle = .ok value := by
  cases program with
  | error raised => cases done
  | ok middle => exact ⟨middle, rfl, done⟩

theorem map_eq_ok {f : α → β} {value : β} (done : program.map f = .ok value) :
    ∃ middle, program = .ok middle ∧ f middle = value := by
  cases program with
  | error raised => cases done
  | ok middle => exact ⟨middle, rfl, Except.ok.inj done⟩

theorem guard_eq_ok {condition : Prop} [Decidable condition] {raised : ε} {value : α}
    (done : (if condition then .error raised else program) = .ok value) :
    ¬ condition ∧ program = .ok value := by
  split_ifs at done with failed
  exact ⟨failed, done⟩

theorem foldlM_preserves {step : β → α → Except ε β} (invariant : β → Prop) {items : List α}
    (preserves : ∀ item ∈ items, ∀ before after, invariant before → step before item = .ok after →
      invariant after) {first last : β} (start : invariant first)
    (done : items.foldlM step first = .ok last) : invariant last := by
  induction items generalizing first with
  | nil =>
    cases done
    exact start
  | cons head rest induction =>
    rw [List.foldlM_cons] at done
    obtain ⟨middle, step_done, rest_done⟩ := bind_eq_ok done
    refine induction (fun item item_mem => preserves item (List.mem_cons_of_mem _ item_mem)) ?_
      rest_done
    exact preserves head List.mem_cons_self first middle start step_done

theorem forM_eq_ok {step : α → Except ε Unit} {rows : List α}
    (done : rows.forM step = .ok ()) : ∀ row ∈ rows, step row = .ok () := by
  induction rows with
  | nil => exact fun row listed => by cases listed
  | cons head tail induction =>
    obtain ⟨⟨⟩, first, rest⟩ := bind_eq_ok done
    intro row listed
    rcases List.mem_cons.mp listed with rfl | later
    · exact first
    · exact induction rest row later

theorem allM_eq_true {test : α → Except ε Bool} {rows : List α}
    (done : rows.allM test = .ok true) : ∀ row ∈ rows, test row = .ok true := by
  induction rows with
  | nil => exact fun row listed => by cases listed
  | cons head tail induction =>
    obtain ⟨passed, first, rest⟩ := bind_eq_ok done
    cases passed with
    | false => cases rest
    | true =>
      intro row listed
      rcases List.mem_cons.mp listed with rfl | later
      · exact first
      · exact induction rest row later

theorem ok_of_toOption {value : α} (done : program.toOption = some value) :
    program = .ok value := by
  cases program with
  | error raised => cases done
  | ok outcome =>
    cases done
    rfl

theorem exists_ok_of_any {test : α → Prop} [DecidablePred test]
    (passed : (program.toOption.any fun value => decide (test value)) = true) :
    ∃ value, program = .ok value ∧ test value := by
  cases program with
  | error raised => cases passed
  | ok value => exact ⟨value, rfl, of_decide_eq_true passed⟩

end

/-! ## Runs of a machine -/

namespace Machine

variable {σ ε : Type*} (step : σ → ε → σ) (condition : σ → ε → Prop)

/-- Every event of the list meets the condition in the state in which it occurs. -/
def Throughout (state : σ) : List ε → Prop
  | [] => True
  | event :: rest => condition state event ∧ Throughout (step state event) rest

variable {step condition}

theorem Throughout.append {state : σ} {first second : List ε}
    (met : Throughout step condition state (first ++ second)) :
    Throughout step condition state first ∧
      Throughout step condition (first.foldl step state) second := by
  induction first generalizing state with
  | nil => exact ⟨trivial, met⟩
  | cons event rest ih =>
    obtain ⟨before, after⟩ := ih met.2
    exact ⟨⟨met.1, before⟩, after⟩

theorem Throughout.invariant {invariant : σ → Prop}
    (kept : ∀ state event, invariant state → condition state event → invariant (step state event))
    {state : σ} (holds : invariant state) {events : List ε}
    (met : Throughout step condition state events) : invariant (events.foldl step state) := by
  induction events generalizing state with
  | nil => exact holds
  | cons event rest ih => exact ih (kept state event holds met.1) met.2

theorem Throughout.imp {invariant : σ → Prop} {conclusion : σ → ε → Prop}
    (kept : ∀ state event, invariant state → condition state event → invariant (step state event))
    (meets : ∀ state event, invariant state → condition state event → conclusion state event)
    {state : σ} (holds : invariant state) {events : List ε}
    (met : Throughout step condition state events) : Throughout step conclusion state events := by
  induction events generalizing state with
  | nil => trivial
  | cons event rest ih =>
    exact ⟨meets state event holds met.1, ih (kept state event holds met.1) met.2⟩

end Machine

/-! ## Calls

A call is numbered by the position of its request in the list of everything ever sent.  A request
may be carried out late, repeatedly or never, and an answer may be taken late or never, so neither
is ever removed. -/

/-- Everything sent, and the answers produced for the calls. -/
structure Calls (α β : Type*) where
  requests : List α := []
  answers : List (Nat × β) := []

namespace Calls

variable {α β : Type*} (calls : Calls α β) (call : Nat)

/-- The number the next request gets. -/
def next : Nat := calls.requests.length

def send (request : α) : Calls α β :=
  { calls with requests := calls.requests ++ [request] }

def answer (reply : β) : Calls α β :=
  { calls with answers := calls.answers ++ [(call, reply)] }

def Carries (request : α) : Prop :=
  calls.requests[call]? = some request

def Answers (reply : β) : Prop := (call, reply) ∈ calls.answers

instance [DecidableEq α] (calls : Calls α β) (call : Nat) (request : α) :
    Decidable (calls.Carries call request) :=
  inferInstanceAs (Decidable (calls.requests[call]? = some request))

instance [DecidableEq β] (calls : Calls α β) (call : Nat) (reply : β) :
    Decidable (calls.Answers call reply) :=
  inferInstanceAs (Decidable ((call, reply) ∈ calls.answers))

variable {call : Nat} {calls : Calls α β} {relation : α → β → Prop}

theorem Carries.unique {first second : α} (left : calls.Carries call first)
    (right : calls.Carries call second) : first = second :=
  Option.some.inj (left.symm.trans right)

variable {request : α}

theorem carries_send_iff {sent : α} :
    (calls.send sent).Carries call request ↔
      calls.Carries call request ∨ call = calls.next ∧ request = sent := by
  unfold Carries send next
  dsimp only
  rcases Nat.lt_trichotomy call calls.requests.length with before | rfl | after
  · rw [List.getElem?_append_left before]
    constructor
    · exact .inl
    · rintro (carried | ⟨rfl, -⟩)
      · exact carried
      · exact absurd before (Nat.lt_irrefl _)
  · simp [eq_comm]
  · have beyond : calls.requests.length + 1 ≤ call := after
    rw [List.getElem?_eq_none (by simpa using beyond),
      List.getElem?_eq_none (by omega : calls.requests.length ≤ call)]
    simp [Nat.ne_of_gt after]

theorem carries_next (calls : Calls α β) (sent : α) : (calls.send sent).Carries calls.next sent :=
  carries_send_iff.mpr (.inr ⟨rfl, rfl⟩)

theorem Carries.send (carried : calls.Carries call request) (sent : α) :
    (calls.send sent).Carries call request :=
  carries_send_iff.mpr (.inl carried)

theorem answers_answer_iff {other : Nat} {reply produced : β} :
    (calls.answer other produced).Answers call reply ↔
      calls.Answers call reply ∨ call = other ∧ reply = produced := by
  simp [Answers, answer]

/-- Every answer stands in a relation to the request of its call. -/
def Justified (relation : α → β → Prop) (calls : Calls α β) : Prop :=
  ∀ call reply, calls.Answers call reply →
    ∃ request, calls.Carries call request ∧ relation request reply

theorem Justified.empty (none : calls.answers = []) : calls.Justified relation := by
  intro call reply answered
  rw [Answers, none] at answered
  cases answered

theorem Justified.send (justified : calls.Justified relation) (sent : α) :
    (calls.send sent).Justified relation := by
  intro call reply answered
  obtain ⟨request, carried, related⟩ := justified call reply answered
  exact ⟨request, carried.send sent, related⟩

theorem Justified.answer (justified : calls.Justified relation)
    (carried : calls.Carries call request) {reply : β} (related : relation request reply) :
    (calls.answer call reply).Justified relation := by
  intro other produced answered
  rcases answers_answer_iff.mp answered with earlier | ⟨rfl, rfl⟩
  · exact justified other produced earlier
  · exact ⟨request, carried, related⟩

theorem Justified.mono {relation weaker : α → β → Prop}
    (embed : ∀ request reply, relation request reply → weaker request reply)
    (justified : calls.Justified relation) : calls.Justified weaker := by
  intro call reply answered
  obtain ⟨request, carried, related⟩ := justified call reply answered
  exact ⟨request, carried, embed request reply related⟩

theorem Justified.of_answers (justified : calls.Justified relation) {reply : β}
    (carried : calls.Carries call request) (answered : calls.Answers call reply) :
    relation request reply := by
  obtain ⟨sent, sent_carried, related⟩ := justified call reply answered
  rwa [carried.unique sent_carried]

end Calls

end TrainingScheduler
