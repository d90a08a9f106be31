/-
Module: TensorLogic.Proofs.Contraction.Recorded
Purpose: Which calls of its operations a contraction makes, told from a record that is kept of them.
Main exports: Contraction.Invocation, Contraction.Recorded, Contraction.recording, Contraction.Records,
  Contraction.records_join, Contraction.records_eliminate
-/
import TensorLogic.Proofs.Contraction.Steps

namespace TensorLogic.Contraction

/-!
A contraction knows its two operations only as computations that are handed to it.  So they can be
exchanged for ones that note each call before they go on as usual: what is noted in the end are the calls
that the contraction makes, in their order.
-/

variable {σ V L α β γ : Type}

/-- A call of one of the operations of a contraction. -/
inductive Invocation (V : Type) where
  | sum (members : List V)
  | product (left right : V)

namespace Invocation

/-- Whether the sum is called. -/
def isSum : Invocation V → Bool
  | sum _ => true
  | product .. => false

/-- Whether the product is called. -/
def isProduct : Invocation V → Bool
  | sum _ => false
  | product .. => true

end Invocation

/-- A state, and the calls that were made to come to it, in order. -/
structure Recorded (σ V : Type) where
  state : σ
  calls : List (Invocation V)

instance [HasJournal σ] : HasJournal (Recorded σ V) :=
  ⟨fun event recorded => { recorded with state := HasJournal.note event recorded.state }⟩

/-- Note a call, and do what is called for. -/
def record (call : Invocation V) (action : Act σ α) : Act (Recorded σ V) α :=
  ExceptT.mk fun recorded =>
    let (outcome, state) := action.runOn recorded.state
    (outcome, ⟨state, recorded.calls ++ [call]⟩)

/-- The sum, with a record of its calls. -/
def recordedSum (sum : List V → Act σ V) (members : List V) : Act (Recorded σ V) V :=
  record (.sum members) (sum members)

/-- The product, with a record of its calls. -/
def recordedProduct (product : V → V → Act σ V) (left right : V) : Act (Recorded σ V) V :=
  record (.product left right) (product left right)

/-- The same contraction, with a record of the calls that it makes. -/
def recording (contraction : Contraction σ V L) : Contraction (Recorded σ V) V L where
  sum := recordedSum contraction.sum
  product := recordedProduct contraction.product
  order := contraction.order
  entries := contraction.entries
  consumed := contraction.consumed

/-- A computation that keeps a record succeeds: it makes the given calls, whatever was recorded
before. -/
def Records (calls : List (Invocation V)) (action : Act (Recorded σ V) α) (state : σ) (value : α)
    (after : σ) : Prop :=
  ∀ earlier, action.runOn ⟨state, earlier⟩ = (.ok value, ⟨after, earlier ++ calls⟩)

namespace Records

variable {calls further : List (Invocation V)} {action : Act (Recorded σ V) α}
  {next : α → Act (Recorded σ V) β} {state middle after : σ} {value : α} {result : β}

theorem pure (value : α) (state : σ) :
    Records [] (pure value : Act (Recorded σ V) α) state value state := by
  intro earlier
  rw [List.append_nil]
  rfl

theorem lift {given : Except Fault α} (isValue : given = .ok value) (state : σ) :
    Records [] (liftM given : Act (Recorded σ V) α) state value state := by
  rw [isValue]
  exact pure value state

/-- The calls of two steps are made one after the other. -/
theorem bind (first : Records calls action state value middle)
    (second : Records further (next value) middle result after) :
    Records (calls ++ further) (action >>= next) state result after := by
  intro earlier
  rw [Act.runOn_bind_ok (first earlier), second, List.append_assoc]

/-- Steps that make no calls come before the ones that do. -/
theorem bindLeft (first : Records [] action state value middle)
    (second : Records further (next value) middle result after) :
    Records further (action >>= next) state result after :=
  first.bind second

/-- What is only made of a result in the end makes no calls. -/
theorem map (records : Records calls action state value after) (function : α → β) :
    Records calls (do return function (← action)) state (function value) after := by
  intro earlier
  rw [Act.runOn_bind_ok (records earlier)]
  rfl

/-- An announcement is not recorded, as it is not a call. -/
theorem announce [HasJournal σ] (event : Event) (state : σ) :
    Records [] (announce event : Act (Recorded σ V) Unit) state () (HasJournal.note event state) := by
  intro earlier
  rw [List.append_nil]
  rfl

end Records

/-- What is recorded goes on as usual. -/
theorem records_record {action : Act σ α} {state after : σ} {value : α}
    (ran : action.runOn state = (.ok value, after)) (call : Invocation V) :
    Records [call] (record call action) state value after := fun earlier =>
  congrArg (fun run => (run.1, (⟨run.2, earlier ++ [call]⟩ : Recorded σ V))) ran

/-! ## Calls for each member of a list, or each element of a tensor -/

/-- Visiting members records one call for each of them, in their order. -/
theorem records_visit {function : α → Act σ β} (call : α → Invocation V) {members : List α}
    {state after : σ} {found : Listed β members.length}
    (ran : (visit function members).runOn state = (.ok found, after)) :
    Records (members.map call) (visit (fun member => record (call member) (function member)) members)
      state found after := by
  induction members generalizing state with
  | nil =>
      cases ran
      exact .pure _ _
  | cons member members hypothesis =>
      obtain ⟨result, middle, ranFirst, ranRest⟩ := Act.runOn_of_bind ran
      obtain ⟨results, last, ranResults, isFound⟩ := Act.runOn_of_bind ranRest
      cases isFound
      exact (records_record ranFirst (call member)).bind ((hypothesis ranResults).map _)

/-- Visiting two lists side by side records one call for each pair, in their order. -/
theorem records_visit2 {function : α → β → Act σ γ} (call : α → β → Invocation V) {lefts : List α}
    {rights : List β} {same : lefts.length = rights.length} {state after : σ}
    {found : Listed γ lefts.length}
    (ran : (visit2 function lefts rights same).runOn state = (.ok found, after)) :
    Records (List.zipWith call lefts rights)
      (visit2 (fun left right => record (call left right) (function left right)) lefts rights same)
      state found after := by
  induction lefts generalizing rights state with
  | nil =>
      cases rights with
      | cons => cases same
      | nil =>
          cases ran
          exact .pure _ _
  | cons left lefts hypothesis =>
      cases rights with
      | nil => cases same
      | cons right rights =>
          obtain ⟨result, middle, ranFirst, ranRest⟩ := Act.runOn_of_bind ran
          obtain ⟨results, last, ranResults, isFound⟩ := Act.runOn_of_bind ranRest
          cases isFound
          exact (records_record ranFirst (call left right)).bind ((hypothesis ranResults).map _)

/-- Tensors that are combined make one call for each pair of their elements. -/
theorem records_map2 {function : α → β → Act σ γ} (call : α → β → Invocation V) {left : Tensor α}
    {right : Tensor β} {result : Tensor γ} {state after : σ}
    (ran : (left.map2 function right).runOn state = (.ok result, after)) :
    result.shape = left.shape ∧
      Records (List.zipWith call left.toList right.toList)
        (left.map2 (fun left right => record (call left right) (function left right)) right) state
        result after := by
  by_cases agree : Shape.Agree left.shape right.shape
  · unfold Tensor.map2 at ran ⊢
    rw [dif_pos agree] at ran ⊢
    obtain ⟨found, middle, ranFound, isResult⟩ := Act.runOn_of_bind ran
    cases isResult
    exact ⟨rfl, (records_visit2 call ranFound).map _⟩
  · unfold Tensor.map2 at ran
    rw [dif_neg agree] at ran
    cases ran

/-- A tensor whose leading axes are folded makes one call for each piece of its storage. -/
theorem records_fold {function : List α → Act σ β} (call : List α → Invocation V) {tensor : Tensor α}
    {count : Nat} {result : Tensor β} {state after : σ}
    (ran : (tensor.fold function (.number count)).runOn state = (.ok result, after)) :
    result.shape = tensor.shape.drop count ∧
      Records ((tensor.slices count).map call)
        (tensor.fold (fun members => record (call members) (function members)) (.number count)) state
        result after := by
  by_cases within : 0 ≤ (Whole.number count).value ∧ (Whole.number count).value ≤ tensor.order
  · unfold Tensor.fold at ran ⊢
    rw [if_pos within] at ran ⊢
    obtain ⟨found, middle, ranFound, isResult⟩ := Act.runOn_of_bind ran
    cases isResult
    exact ⟨rfl, (records_visit call ranFound).map _⟩
  · unfold Tensor.fold at ran
    rw [if_neg within] at ran
    cases ran

/-! ## Calls of the steps of a contraction -/

variable [AxisLabel L] {order : List L} {state after : σ}

/-- A product that succeeds multiplies the elements of its entries pair by pair, once both are spread over
the labels of the product. -/
theorem records_join [Platform] {product : V → V → Act σ V} {left right joined : Entry V L}
    (ran : (join order product left right).runOn state = (.ok joined, after)) :
    ∃ (dimensions : Dimensions L) (first second : Tensor V), dimensionsOf [left, right] = .ok dimensions ∧
      spread left joined.labels dimensions = .ok first ∧
      spread right joined.labels dimensions = .ok second ∧
      joined.labels = ordered order (left.labels ++ right.labels) ∧
      joined.tensor.shape = first.shape ∧
      Records (List.zipWith Invocation.product first.toList second.toList)
        (join order (recordedProduct product) left right) state joined after := by
  obtain ⟨dimensions, _, found, ran⟩ := Act.runOn_of_bind ran
  obtain ⟨first, _, spreadsLeft, ran⟩ := Act.runOn_of_bind ran
  obtain ⟨second, _, spreadsRight, ran⟩ := Act.runOn_of_bind ran
  obtain ⟨tensor, _, multiplies, isJoined⟩ := Act.runOn_of_bind ran
  obtain ⟨isFound, rfl⟩ := Prod.mk.inj found
  obtain ⟨isFirst, rfl⟩ := Prod.mk.inj spreadsLeft
  obtain ⟨isSecond, rfl⟩ := Prod.mk.inj spreadsRight
  cases isJoined
  obtain ⟨isShape, records⟩ := records_map2 Invocation.product multiplies
  refine ⟨dimensions, first, second, isFound, isFirst, isSecond, rfl, isShape, ?_⟩
  apply (Records.lift isFound _).bindLeft
  apply (Records.lift isFirst _).bindLeft
  apply (Records.lift isSecond _).bindLeft
  exact records.map fun tensor => (⟨tensor, _⟩ : Entry V L)

/-- An elimination that succeeds leaves an entry as it is, calling nothing, when all of its labels are
needed.  Otherwise it calls the sum for each piece of the storage, once the labels that are not needed are
moved to the front. -/
theorem records_eliminate [Platform] {sum : List V → Act σ V} {needed : List L} {entry reduced : Entry V L}
    (ran : (eliminate sum needed entry).runOn state = (.ok reduced, after)) :
    (entry.gone needed = [] ∧ reduced = entry ∧
      Records [] (eliminate (recordedSum sum) needed entry) state reduced after) ∨
    (entry.gone needed ≠ [] ∧ reduced.labels = entry.kept needed ∧
      ∃ (dimensions : Dimensions L) (tensor : Tensor V), dimensionsOf [entry] = .ok dimensions ∧
        spread entry (entry.gone needed ++ entry.kept needed) dimensions = .ok tensor ∧
        reduced.tensor.shape = tensor.shape.drop (entry.gone needed).length ∧
        Records ((tensor.slices (entry.gone needed).length).map Invocation.sum)
          (eliminate (recordedSum sum) needed entry) state reduced after) := by
  rw [eliminate_eq] at ran ⊢
  by_cases none : (entry.gone needed).isEmpty = true
  · rw [if_pos none] at ran ⊢
    cases ran
    exact .inl ⟨List.isEmpty_iff.1 none, rfl, .pure _ _⟩
  · rw [if_neg none] at ran ⊢
    obtain ⟨dimensions, _, found, ran⟩ := Act.runOn_of_bind ran
    obtain ⟨tensor, _, spreads, ran⟩ := Act.runOn_of_bind ran
    obtain ⟨folded, _, folds, isReduced⟩ := Act.runOn_of_bind ran
    obtain ⟨isFound, rfl⟩ := Prod.mk.inj found
    obtain ⟨isTensor, rfl⟩ := Prod.mk.inj spreads
    cases isReduced
    obtain ⟨isShape, records⟩ := records_fold Invocation.sum folds
    refine .inr ⟨fun isNil => none (List.isEmpty_iff.2 isNil), rfl, dimensions, tensor, isFound,
      isTensor, isShape, ?_⟩
    apply (Records.lift isFound _).bindLeft
    apply (Records.lift isTensor _).bindLeft
    exact records.map fun tensor => (⟨tensor, _⟩ : Entry V L)

end TensorLogic.Contraction
