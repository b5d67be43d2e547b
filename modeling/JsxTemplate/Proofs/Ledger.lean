import Mathlib.Logic.Function.Basic
import JsxTemplate.Template.Bench
import JsxTemplate.Proofs.Fragments

/-
  Runs on a bench of buffers. A ledger keeps, beside the bench, what was added to each buffer since
  it was new; the operand of `concat` counts with its literals and slots one by one. Each operation
  keeps every buffer equal to the one its entries make (`Ledger.Holds.perform`), hence so does every
  run, and the buffers of a run can be read off the ledger (`run_fragments`).
-/

namespace JsxTemplate

open Fragment

namespace Bench

theorem get_put (bench : Bench) (name other : Text) (buffer : Buffer) :
    (bench.put name buffer).get other = if other = name then buffer else bench.get other := by
  unfold get put
  by_cases h : other = name
  · simp [h]
  · simp [List.lookup_cons, beq_eq_false_iff_ne.2 h, h]

/-- Every operation but the assignment of parts, which need not fit together. -/
def Operation.builds : Operation → Bool
  | assign _ => false
  | _ => true

/-- What has been added to a buffer behind an operation, if `added` was before it. An operand with
more slots than literals adds nothing. -/
def Operation.record (bench : Bench) (added : List Fragment) : Operation → List Fragment
  | reset => []
  | addLiteral text => added ++ [.literal text]
  | addExpression code => added ++ [.slot code]
  | concat operand =>
    if (operand.get bench).literals.length < (operand.get bench).expressions.length then added
    else added ++ (operand.get bench).fragments
  | _ => added

end Bench

open Bench

/-- A bench, and what was added to each of its buffers. -/
structure Ledger where
  bench : Bench
  added : Text → List Fragment

namespace Ledger

/-- All buffers are new. -/
def fresh : Ledger := ⟨[], fun _ => []⟩

def perform (ledger : Ledger) (name : Text) (operation : Operation) : Ledger where
  bench := (ledger.bench.perform name operation).2
  added := Function.update ledger.added name (operation.record ledger.bench (ledger.added name))

/-- The ledger behind a run. -/
def run (operations : List (Text × Operation)) : Ledger :=
  operations.foldl (fun ledger step => ledger.perform step.1 step.2) fresh

/-- Every buffer is what its entries make. -/
def Holds (ledger : Ledger) : Prop :=
  ∀ name, ledger.bench.get name = .ofFragments (ledger.added name)

variable {ledger : Ledger} {name : Text}

theorem holds_fresh : fresh.Holds := fun _ => rfl

/-- An operation that leaves the buffers as they are and adds nothing. -/
theorem Holds.unchanged (h : ledger.Holds) {operation : Operation}
    (hbench : (ledger.bench.perform name operation).2 = ledger.bench)
    (hrecord : operation.record ledger.bench (ledger.added name) = ledger.added name) :
    (ledger.perform name operation).Holds := by
  intro other
  rw [perform, hbench, hrecord, Function.update_eq_self]
  exact h other

/-- An operation that puts the buffer of the new entries in place. -/
theorem Holds.changed (h : ledger.Holds) {operation : Operation}
    (hbench : (ledger.bench.perform name operation).2 =
      ledger.bench.put name (.ofFragments (operation.record ledger.bench (ledger.added name)))) :
    (ledger.perform name operation).Holds := by
  intro other
  rw [perform, hbench, get_put]
  dsimp only
  by_cases hname : other = name
  · rw [if_pos hname, hname, Function.update_self]
  · rw [if_neg hname, Function.update_of_ne hname]
    exact h other

theorem perform_concat_of_lt {bench : Bench} {operand : Operand}
    (h : (operand.get bench).literals.length < (operand.get bench).expressions.length) :
    bench.perform name (.concat operand) =
      (.refused (.malformedBuffer (operand.get bench).literals.length
        (operand.get bench).expressions.length), bench) := by
  have hform : ¬ (operand.get bench).isWellFormed = true := by
    rw [Buffer.isWellFormed, decide_eq_true_eq]
    omega
  rw [Bench.perform, Buffer.concat, if_neg hform]

theorem Holds.perform_concat (h : ledger.Holds) {operand : Operand}
    (hle : ¬ (operand.get ledger.bench).literals.length <
      (operand.get ledger.bench).expressions.length) :
    ledger.bench.perform name (.concat operand) =
      (.nothing, ledger.bench.put name
        (.ofFragments (ledger.added name ++ (operand.get ledger.bench).fragments))) := by
  have hform : (operand.get ledger.bench).isWellFormed = true := by
    rw [Buffer.isWellFormed, decide_eq_true_eq]
    omega
  rw [Bench.perform, h name, Buffer.concat_of_isWellFormed _ hform]

theorem Holds.perform (h : ledger.Holds) (name : Text) {operation : Operation}
    (hbuilds : operation.builds = true) : (ledger.perform name operation).Holds := by
  cases operation with
  | reset => exact h.changed rfl
  | assign buffer => cases hbuilds
  | addLiteral text =>
    apply h.changed
    rw [Bench.perform, h name, Buffer.addLiteral_ofFragments]
    rfl
  | addExpression code =>
    apply h.changed
    rw [Bench.perform, h name, Buffer.addExpression_ofFragments]
    rfl
  | concat operand =>
    by_cases hlt : (operand.get ledger.bench).literals.length <
        (operand.get ledger.bench).expressions.length
    · apply h.unchanged
      · rw [perform_concat_of_lt hlt]
      · exact if_pos hlt
    · apply h.changed
      rw [h.perform_concat hlt, Operation.record, if_neg hlt]
  | materialize => exact h.unchanged rfl rfl
  | compare other => exact h.unchanged rfl rfl

theorem holds_run {operations : List (Text × Operation)}
    (h : ∀ step ∈ operations, step.2.builds = true) : (run operations).Holds := by
  unfold run
  -- The induction is on the operations still to come, so the ledger before them is any that holds.
  suffices ∀ ledger : Ledger, ledger.Holds →
      (operations.foldl (fun ledger step => ledger.perform step.1 step.2) ledger).Holds from
    this fresh holds_fresh
  induction operations with
  | nil => intro ledger hledger; exact hledger
  | cons step operations ih =>
    intro ledger hledger
    exact ih (fun other hother => h other (List.mem_cons_of_mem _ hother)) _
      (hledger.perform step.1 (h step List.mem_cons_self))

/-- After any run, each buffer has its literals and slots in turn; its slots are those added, in
order, and its literals the texts added before, between and behind them. `concat` refuses exactly
the operands with more slots than literals, and then changes nothing. Every buffer can be closed. -/
theorem run_fragments {operations : List (Text × Operation)}
    (h : ∀ step ∈ operations, step.2.builds = true) (name : Text) :
    let ledger := run operations
    let buffer := ledger.bench.get name
    (buffer.literals.length = buffer.expressions.length ∨
      buffer.literals.length = buffer.expressions.length + 1) ∧
    buffer.expressions = slots (ledger.added name) ∧
    (buffer.literals = gaps (ledger.added name) ∨
      buffer.literals ++ [[]] = gaps (ledger.added name)) ∧
    (∀ operand : Operand,
      let other := operand.get ledger.bench
      ledger.bench.perform name (.concat operand) =
        if other.literals.length < other.expressions.length then
          (.refused (.malformedBuffer other.literals.length other.expressions.length),
            ledger.bench)
        else (.nothing, ledger.bench.put name
          (.ofFragments (ledger.added name ++ other.fragments)))) ∧
    ∃ template, buffer.materialize = .ok template ∧
      template.segments.length = template.expressions.length + 1 := by
  intro ledger buffer
  have hholds : ledger.Holds := holds_run h
  have hbuffer : buffer = .ofFragments (ledger.added name) := hholds name
  refine ⟨?_, ?_, ?_, ?_, .ofFragments (ledger.added name), ?_, ?_⟩
  · rw [hbuffer]
    exact Buffer.turns_ofFragments _
  · rw [hbuffer]
    rfl
  · rw [hbuffer]
    by_cases hequal : (Buffer.ofFragments (ledger.added name)).literals.length =
        (Buffer.ofFragments (ledger.added name)).expressions.length
    · exact .inr (Buffer.literals_append_ofFragments _ hequal)
    · exact .inl (Buffer.literals_ofFragments _ hequal)
  · intro operand other
    split
    next hlt => exact perform_concat_of_lt hlt
    next hlt => exact hholds.perform_concat hlt
  · rw [hbuffer, Buffer.materialize_ofFragments]
  · rw [Template.ofFragments, List.length_mapIdx, length_gaps]

/-- A buffer doubled, an operand with surplus literals, and one that is refused. -/
theorem run_fragments_doubled :
    let operations : List (Text × Operation) :=
      [(['a'], .addLiteral ['x']), (['a'], .addExpression []), (['a'], .concat (.named ['a'])),
        (['b'], .concat (.parts ⟨[['1'], ['2'], ['3']], [['e']]⟩)),
        (['a'], .concat (.parts ⟨[], [['y']]⟩)), (['a'], .concat (.named ['b']))]
    let buffer := (run operations).bench.get ['a']
    (∀ step ∈ operations, step.2.builds = true) ∧
    buffer = ⟨[['x'], ['x'], ['1'], ['2', '3']], [[], [], ['e']]⟩ ∧
    buffer.expressions = slots ((run operations).added ['a']) ∧
    ∃ template, buffer.materialize = .ok template ∧
      template.segments.length = template.expressions.length + 1 := by
  intro operations buffer
  have hbuilds : ∀ step ∈ operations, step.2.builds = true := by simp [operations, Operation.builds]
  obtain ⟨-, hslots, -, -, hclosed⟩ := run_fragments hbuilds ['a']
  exact ⟨hbuilds, by decide, hslots, hclosed⟩

end Ledger

end JsxTemplate
