/-
Module: TensorLogic.Proofs.Contraction.Verdict
Purpose: Which contractions have a result, and how all others fail.
Main exports: Contraction.Total, Contraction.Contractible, Contraction.Accumulated,
  Contraction.Decided, Contraction.take_decided
-/
import TensorLogic.Proofs.Contraction.BruteForce
import TensorLogic.Proofs.Contraction.Clash
import TensorLogic.Proofs.Contraction.Correspondence
import TensorLogic.Proofs.Contraction.Queue

namespace TensorLogic

/-- An arithmetic with a single element. -/
def Arithmetic.trivial : Arithmetic Unit where
  zero := ()
  plus := fun _ _ => ()
  times := fun _ _ => ()
  plus_assoc := fun _ _ _ => rfl
  plus_comm := fun _ _ => rfl
  zero_plus := fun _ => rfl
  plus_times := fun _ _ _ => rfl
  zero_times := fun _ => rfl

namespace Contraction

/-!
Whether a contraction has a result does not depend on the elements of the tensors, as long as all sums
and products can be computed.  So the elements are forgotten here: what is left of a tensor is its hull,
and hulls are contracted with the trivial arithmetic.
-/

variable {σ V L K : Type}

/-- All sums and products can be computed, in every state. -/
structure Total (sum : List V → Act σ V) (product : V → V → Act σ V) : Prop where
  sum : ∀ members state, ∃ value next, (sum members).runOn state = (.ok value, next)
  product : ∀ first second state, ∃ value next,
    (product first second).runOn state = (.ok value, next)

/-- No label is used with two dimensions. -/
def OneDimension (key : L → K) (entries : List (Entry V L)) : Prop :=
  ∀ left ∈ entries, ∀ right ∈ entries, ∀ first ∈ left.outline, ∀ second ∈ right.outline,
    key first.1 = key second.1 → first.2.value = second.2.value

/-- Entries and an output that a contraction is made for: there is an entry, the output labels are
different ones that entries mention, and no label is used with two dimensions. -/
structure Contractible (key : L → K) (entries : List (Entry V L)) (output : List L) : Prop where
  nonempty : entries ≠ []
  different : (output.map key).Nodup
  known : ∀ label ∈ output, ∃ entry ∈ entries, key label ∈ entry.keys key
  oneDimension : OneDimension key entries

/-- A shape has one axis for each output label, in their order, with the dimension that the entries use
the label with. -/
def OutputShape (key : L → K) (entries : List (Entry V L)) (output : List L) (shape : Shape) : Prop :=
  List.Forall₂ (fun label dimension => ∀ entry ∈ entries, ∀ pair ∈ entry.outline,
    key pair.1 = key label → pair.2.value = dimension.value) output shape

/-! ## Entries without their elements -/

/-- An entry of which only the labels and the shape are left. -/
def Entry.hull (entry : Entry V L) : Entry Unit L := entry.image fun _ => ()

/-- An entry is related to its hull, which has all of it but the elements. -/
theorem Entry.related_hull (entry : Entry V L) :
    Entry.Related (fun _ _ => True) entry (entry.hull.image (id : Unit → Unit)) where
  labels_eq := rfl
  tensors := by
    refine ⟨rfl, ?_⟩
    change List.Forall₂ _ _ ((entry.tensor.map _).map _).toList
    rw [Tensor.toList_map, Tensor.toList_map, List.map_map, List.forall₂_map_right_iff,
      List.forall₂_same]
    exact fun _ _ => trivial

/-- Labels fit a tensor exactly when they fit its hull. -/
theorem Entry.proper_hull {used : L → Prop} {key : L → K} {dim : K → Nat} {entry : Entry V L} :
    entry.hull.Proper used key dim ↔ entry.Proper used key dim :=
  ⟨fun proper => ⟨proper.uses, proper.different, proper.isShape⟩,
    fun proper => ⟨proper.uses, proper.different, proper.isShape⟩⟩

theorem computes_trivial : Computes (σ := σ) Arithmetic.trivial (id : Unit → Unit) (fun _ => pure ())
    (fun _ _ => pure ()) :=
  ⟨fun _ _ => rfl, fun _ _ _ => rfl⟩

variable [AxisLabel L]

/-- Entries and their hulls are accumulated with the same outcome, up to the elements. -/
theorem accumulate_hulls [Platform] {sum : List V → Act σ V} {product : V → V → Act σ V}
    (total : Total sum product) (order output : List L) (entries : List (Entry V L)) (state : σ) :
    SameOutcome (Entry.Related fun _ _ => True)
      ((accumulate sum product order output entries).runOn state).1
      ((accumulate (fun _ => pure ()) (fun _ _ => pure ()) order output
        ((entries.map Entry.hull).map (Entry.image (id : Unit → Unit)))).runOn state).1 := by
  have related : List.Forall₂ (Entry.Related fun _ _ => True) entries
      ((entries.map Entry.hull).map (Entry.image (id : Unit → Unit))) := by
    rw [List.map_map, List.forall₂_map_right_iff, List.forall₂_same]
    exact fun entry _ => entry.related_hull
  have stable : (Bridge.idle : Bridge σ σ).Stable fun _ (_ : V) (_ : Unit) => True :=
    fun _ _ _ _ _ _ => trivial
  have sums : ∀ states lefts rights, List.Forall₂ (fun (_ : V) (_ : Unit) => True) lefts rights →
      (Bridge.idle : Bridge σ σ).Corresponds states (sum lefts) (pure ()) fun _ _ _ => True := by
    intro states lefts _ _ _
    obtain ⟨value, next, ran⟩ := total.sum lefts states.1
    refine ⟨trivial, trivial, ?_⟩
    rw [ran]
    exact .ok trivial
  have products : ∀ (states : σ × σ) (first : V) (second : Unit) (third : V) (fourth : Unit), True →
      True → (Bridge.idle : Bridge σ σ).Corresponds states (product first third) (pure ())
        fun _ _ _ => True := by
    intro states first _ third _ _ _ _
    obtain ⟨value, next, ran⟩ := total.product first third states.1
    refine ⟨trivial, trivial, ?_⟩
    rw [ran]
    exact .ok trivial
  have accumulates : (Bridge.idle : Bridge σ σ).Corresponds (state, state) _ _ _ :=
    .accumulate order stable sums products output related
  exact (accumulates trivial).2.2

/-! ## What is accumulated -/

variable {entries : List (Entry V L)} {output : List L} {key : L → K}

omit [AxisLabel L] in
theorem inUse_hulls : InUse (entries.map Entry.hull) output = InUse entries output := by
  funext label
  rw [InUse, InUse, List.flatMap_map]
  rfl

theorem added_hulls : Suited.added (entries.map Entry.hull) = Suited.added entries := by
  rw [Suited.added, Suited.added, List.flatMap_map]
  rfl

omit [AxisLabel L] in
theorem outlines_hulls : (entries.map Entry.hull).map Entry.outline = entries.map Entry.outline := by
  rw [List.map_map]
  rfl

variable [DecidableEq K]

omit [AxisLabel L] in
/-- Where no label has two dimensions, there are dimensions with which all entries are labelled. -/
theorem OneDimension.exists_proper (oneDimension : OneDimension key entries)
    {used : L → Prop} (labelled : ∀ entry ∈ entries, ∃ own, entry.Proper used key own) :
    ∃ dim, ∀ entry ∈ entries, entry.Proper used key dim := by
  refine ⟨firstDimension key (entries.flatMap Entry.outline), fun entry inside => ?_⟩
  obtain ⟨own, proper⟩ := labelled entry inside
  refine proper.of_outline fun pair among => ?_
  refine (firstDimension_of_agree (List.mem_flatMap.2 ⟨entry, inside, among⟩) ?_).symm
  intro other listed same
  obtain ⟨right, isRight, inRight⟩ := List.mem_flatMap.1 listed
  exact oneDimension right isRight entry inside other inRight pair among same

omit [AxisLabel L] [DecidableEq K] in
/-- Where all entries are labelled with the same dimensions, no label has two. -/
theorem OneDimension.of_propers {used : L → Prop} {dim : K → Nat}
    (propers : ∀ entry ∈ entries, entry.Proper used key dim) : OneDimension key entries := by
  intro left isLeft right isRight first inLeft second inRight same
  rw [((propers left isLeft).sized first inLeft).2, ((propers right isRight).sized second inRight).2,
    same]

/-- Entries that a contraction is made for are suited, once their elements are forgotten. -/
theorem Contractible.suited (contractible : Contractible key entries output)
    (tells : Tells key (InUse entries output)) {dim : K → Nat}
    (propers : ∀ entry ∈ entries, entry.Proper (InUse entries output) key dim) :
    Suited key dim (entries.map Entry.hull) output where
  nonempty := by
    rw [Ne, List.map_eq_nil_iff]
    exact contractible.nonempty
  tells := by
    rw [inUse_hulls]
    exact tells
  different := List.forall_mem_map.2 fun entry inside => (propers entry inside).different
  dimensions := List.forall_mem_map.2 fun entry inside => (propers entry inside).isShape
  differentOutput := contractible.different
  known := by
    intro own inside
    obtain ⟨label, among, rfl⟩ := List.mem_map.1 inside
    obtain ⟨entry, isEntry, mentions⟩ := contractible.known label among
    exact List.mem_flatMap.2 ⟨entry.hull, List.mem_map_of_mem isEntry, mentions⟩

omit [AxisLabel L] [DecidableEq K] in
/-- A tensor whose axes have the dimensions of the output labels has the shape of the output. -/
theorem outputShape_of_values {used : L → Prop} {dim : K → Nat}
    (propers : ∀ entry ∈ entries, entry.Proper used key dim) {shape : Shape}
    (isShape : shape.values = (output.map key).map dim) : OutputShape key entries output shape := by
  rw [Shape.values, List.map_map] at isShape
  have axes : List.Forall₂ Eq (output.map (dim ∘ key)) (shape.map Count.value) := by
    rw [isShape, List.forall₂_same]
    exact fun _ _ => rfl
  rw [List.forall₂_map_left_iff, List.forall₂_map_right_iff] at axes
  refine axes.imp fun label dimension isDimension entry inside pair among same => ?_
  rw [← isDimension, ((propers entry inside).sized pair among).2, same]
  rfl

/-- How the accumulation of entries ends. -/
inductive Accumulated [Platform] (key : L → K) (entries : List (Entry V L)) (output : List L) :
    Except Fault (Entry V L) → Prop where
  | given {result : Entry V L} (oneDimension : OneDimension key entries)
      (roomy : Roomy Shape.PassesSpread output (entries.map Entry.outline))
      (isOutput : (result.labels == output) = true)
      (axes : OutputShape key entries output result.tensor.shape) :
      Accumulated key entries output (.ok result)
  | clash {fault : Fault} (clashes : ¬OneDimension key entries) (isClash : IsClash fault) :
      Accumulated key entries output (.error fault)
  | crowded {fault : Fault} (short : ¬Roomy Shape.PassesSpread output (entries.map Entry.outline))
      (isShort : NoRoom fault) : Accumulated key entries output (.error fault)

/-- Accumulating comes to one of its verdicts: a product with the labels of the output, a label with two
dimensions, or a want of room. -/
theorem accumulated [Platform] {sum : List V → Act σ V} {product : V → V → Act σ V}
    (total : Total sum product) (tells : Tells key (InUse entries output))
    (labelled : ∀ entry ∈ entries, ∃ own, entry.Proper (InUse entries output) key own)
    (nonempty : entries ≠ []) (different : (output.map key).Nodup)
    (known : ∀ label ∈ output, ∃ entry ∈ entries, key label ∈ entry.keys key) (state : σ) :
    Accumulated key entries output
      ((accumulate sum product (touch (Suited.added entries) output) output entries).runOn state).1 := by
  have same := accumulate_hulls total (touch (Suited.added entries) output) output entries state
  generalize ((accumulate sum product (touch (Suited.added entries) output) output entries).runOn
    state).1 = outcome at same ⊢
  rw [← added_hulls] at same
  by_cases oneDimension : OneDimension key entries
  · have contractible : Contractible key entries output := ⟨nonempty, different, known, oneDimension⟩
    obtain ⟨dim, propers⟩ := oneDimension.exists_proper labelled
    obtain ⟨hull, _, ⟨found, ran, provided⟩, isOutput, _, holds⟩ :=
      (contractible.suited tells propers).runOn_accumulate computes_trivial state
    rw [outlines_hulls] at provided
    rw [ran] at same
    cases provided with
    | crowded short isShort =>
        cases same with
        | error => exact .crowded short isShort
    | given enough =>
        cases same with
        | @ok result _ related =>
            have proper := holds.proper
            rw [inUse_hulls] at proper
            have areLabels : result.labels = hull.labels := related.labels_eq
            have isShape := proper.isShape
            rw [isOutput] at isShape
            refine .given oneDimension enough ?_ ?_
            · rw [areLabels, beq_iff_keys tells proper.uses fun _ inside => .inr inside]
              exact isOutput
            · rw [related.tensors.shape_eq]
              exact outputShape_of_values propers isShape
  · rw [← inUse_hulls] at tells
    have labelledHulls : ∀ hull ∈ entries.map Entry.hull,
        ∃ own, hull.Proper (InUse (entries.map Entry.hull) output) key own := by
      rw [inUse_hulls, List.forall_mem_map]
      exact fun entry inside => (labelled entry inside).imp fun _ => Entry.proper_hull.2
    have clash : ∀ dim, ¬∀ hull ∈ entries.map Entry.hull,
        hull.Proper (InUse (entries.map Entry.hull) output) key dim := fun dim propers =>
      oneDimension (.of_propers fun entry inside =>
        Entry.proper_hull.1 (propers entry.hull (List.mem_map_of_mem inside)))
    obtain ⟨fault, ran, cause⟩ :=
      accumulate_clashes tells labelledHulls computes_trivial clash state
    rw [ran] at same
    rw [outlines_hulls] at cause
    cases same with
    | error =>
        rcases cause with isClash | ⟨isShort, short⟩
        · exact .clash oneDimension isClash
        · exact .crowded short isShort

/-! ## What is asked for -/

/-- How an output is found to be. -/
inductive Checked (key : L → K) (entries : List (Entry V L)) (output : List L) :
    Except Fault Unit → Prop where
  | empty (isNil : entries = []) : Checked key entries output (.error .contractionEmpty)
  | repeated (nonempty : entries ≠ []) (repeats : ¬(output.map key).Nodup) :
      Checked key entries output (.error (.outputRepeated (AxisLabel.tupleText output)))
  | unknown (nonempty : entries ≠ []) {label : L} (inside : label ∈ output)
      (absent : ∀ entry ∈ entries, key label ∉ entry.keys key) :
      Checked key entries output (.error (.outputUnknown (AxisLabel.text label)))
  | fit (nonempty : entries ≠ []) (different : (output.map key).Nodup)
      (known : ∀ label ∈ output, ∃ entry ∈ entries, key label ∈ entry.keys key) :
      Checked key entries output (.ok ())

/-- The check of the output labels objects exactly to repeated labels, to unknown ones and to having no
entries. -/
theorem checked (tells : Tells key (InUse entries output)) {contraction : Contraction σ V L}
    (isOrder : contraction.order = Suited.added entries) (isEntries : contraction.entries = entries) :
    Checked key entries output (contraction.checkOutput output) := by
  have mentioned : ∀ label ∈ output, contraction.order.elem label = true ↔
      ∃ entry ∈ entries, key label ∈ entry.keys key := by
    intro label inside
    rw [isOrder, elem_eq_decide tells Suited.uses_added (.inr inside), decide_eq_true_iff,
      Suited.mem_keys_added tells, List.mem_flatMap]
  have different := nodup_iff_allDifferent tells fun _ inside => .inr inside
  unfold checkOutput
  rw [isEntries]
  by_cases isNil : entries.isEmpty = true
  · rw [if_pos isNil]
    exact .empty (List.isEmpty_iff.1 isNil)
  · have nonempty : entries ≠ [] := fun none => isNil (List.isEmpty_iff.2 none)
    rw [if_neg isNil]
    cases unlike : allDifferent output with
    | false =>
        refine .repeated nonempty fun nodup => ?_
        rw [different.2 nodup] at unlike
        cases unlike
    | true =>
        have nodup := different.1 unlike
        rw [if_neg (by decide)]
        cases found : output.find? fun label => !contraction.order.elem label with
        | some label =>
            have inside := List.mem_of_find?_eq_some found
            have missing := List.find?_some found
            refine .unknown nonempty inside fun entry isEntry mentions => ?_
            rw [(mentioned label inside).2 ⟨entry, isEntry, mentions⟩] at missing
            cases missing
        | none =>
            refine .fit nonempty nodup fun label inside => (mentioned label inside).1 ?_
            have present := List.find?_eq_none.1 found label inside
            simpa using present

/-! ## The result -/

/-- A fault that says what is wrong with the output labels, or with the dimensions. -/
def IsObjection (fault : Fault) : Prop :=
  (∃ labels, fault = .outputRepeated labels) ∨ (∃ label, fault = .outputUnknown label) ∨ IsClash fault

omit [AxisLabel L] [DecidableEq K] in
/-- Every objection is a wrong value. -/
theorem IsObjection.category_eq {fault : Fault} (isObjection : IsObjection fault) :
    fault.category = .value := by
  rcases isObjection with ⟨_, rfl⟩ | ⟨_, rfl⟩ | ⟨_, _, _, rfl⟩ <;> rfl

/-- The outcome of a contraction is decided by the labels and the dimensions: there is a result, over the
output labels, just where the contraction is made for the entries and the output, and there is room for
each rearrangement.  Otherwise the fault says what is wrong with them, or that there is no room. -/
structure Decided [Platform] (key : L → K) (entries : List (Entry V L)) (output : List L)
    (outcome : Except Fault (Tensor V)) : Prop where
  returns : (∃ result, outcome = .ok result) ↔
    Contractible key entries output ∧ Roomy Shape.FitsSpread output (entries.map Entry.outline)
  axes : ∀ result, outcome = .ok result → OutputShape key entries output result.shape
  empty : entries = [] → ∃ fault, outcome = .error fault ∧ fault.category = .state
  fails : entries ≠ [] → ∀ fault, outcome = .error fault →
    (¬Contractible key entries output ∧ IsObjection fault ∧ fault.category = .value) ∨
      (¬Roomy Shape.FitsSpread output (entries.map Entry.outline) ∧ NoRoom fault)

namespace Decided

omit [DecidableEq K]

/-- Without entries the verdict is that there is nothing to contract. -/
theorem of_empty [Platform] (isNil : entries = []) :
    Decided key entries output (.error .contractionEmpty : Except Fault (Tensor V)) where
  returns := ⟨nofun, fun asked => absurd isNil asked.1.nonempty⟩
  axes := nofun
  empty := fun _ => ⟨_, rfl, rfl⟩
  fails := fun nonempty => absurd isNil nonempty

/-- An objection is the verdict where the labels do not allow the contraction. -/
theorem of_objection [Platform] (nonempty : entries ≠ []) (unfit : ¬Contractible key entries output)
    {fault : Fault} (isObjection : IsObjection fault) : Decided key entries output (.error fault) where
  returns := ⟨nofun, fun asked => absurd asked.1 unfit⟩
  axes := nofun
  empty := fun isNil => absurd isNil nonempty
  fails := by
    rintro _ _ ⟨⟩
    exact .inl ⟨unfit, isObjection, isObjection.category_eq⟩

/-- A want of room is the verdict where some step has none. -/
theorem of_short [Platform] (nonempty : entries ≠ [])
    (short : ¬Roomy Shape.FitsSpread output (entries.map Entry.outline)) {fault : Fault}
    (isShort : NoRoom fault) : Decided key entries output (.error fault) where
  returns := ⟨nofun, fun asked => absurd asked.2 short⟩
  axes := nofun
  empty := fun isNil => absurd isNil nonempty
  fails := by
    rintro _ _ ⟨⟩
    exact .inr ⟨short, isShort⟩

/-- A result on the axes of the output is the verdict where labels and room allow it. -/
theorem of_result [Platform] (contractible : Contractible key entries output)
    (roomy : Roomy Shape.FitsSpread output (entries.map Entry.outline)) {result : Tensor V}
    (axes : OutputShape key entries output result.shape) :
    Decided key entries output (.ok result) where
  returns := ⟨fun _ => ⟨contractible, roomy⟩, fun _ => ⟨result, rfl⟩⟩
  axes := by
    rintro _ ⟨⟩
    exact axes
  empty := fun isNil => absurd isNil contractible.nonempty
  fails := nofun

end Decided

section

variable [HasJournal σ] {contraction : Contraction σ V L}
  (total : Total contraction.sum contraction.product) (tells : Tells key (InUse entries output))
  (isOrder : contraction.order = Suited.added entries) (isEntries : contraction.entries = entries)
  (labelled : ∀ entry ∈ entries, ∃ own, entry.Proper (InUse entries output) key own)

include total tells isOrder isEntries labelled

/-- Contracting comes to its verdict from every state. -/
theorem contract_decided [Platform] (typed : ∀ entry ∈ entries, entry.tensor.shape.Numeric) (state : σ) :
    Decided key entries output ((contraction.contract output).runOn state).1 := by
  have room : Roomy Shape.FitsSpread output (entries.map Entry.outline) ↔
      Roomy Shape.PassesSpread output (entries.map Entry.outline) := roomy_iff (numeric_outlines typed)
  have isChecked := checked tells isOrder isEntries
  generalize found : contraction.checkOutput output = outcome at isChecked
  cases isChecked with
  | empty isNil =>
      rw [contract_eq, found]
      exact .of_empty isNil
  | repeated nonempty repeats =>
      rw [contract_eq, found]
      exact .of_objection nonempty (fun fit => repeats fit.different) (.inl ⟨_, rfl⟩)
  | unknown nonempty inside absent =>
      rw [contract_eq, found]
      refine .of_objection nonempty (fun fit => ?_) (.inr (.inl ⟨_, rfl⟩))
      obtain ⟨entry, isEntry, mentions⟩ := fit.known _ inside
      exact absent entry isEntry mentions
  | fit nonempty different known =>
      rw [contract_eq, runOn_checked found, isOrder, isEntries, Act.runOn_bind]
      generalize HasJournal.note _ state = middle
      have ends := accumulated total tells labelled nonempty different known middle
      generalize (accumulate contraction.sum contraction.product (touch (Suited.added entries) output)
        output entries).runOn middle = run at ends ⊢
      obtain ⟨outcome, after⟩ := run
      cases ends with
      | given oneDimension roomy _ axes =>
          exact .of_result ⟨nonempty, different, known, oneDimension⟩ (room.2 roomy) axes
      | clash clashes isClash =>
          exact .of_objection nonempty (fun fit => clashes fit.oneDimension) (.inr (.inr isClash))
      | crowded short isShort =>
          exact .of_short nonempty (fun roomy => short (room.1 roomy)) isShort

/-- No alarm is ever raised: with the checks, the contraction does the same. -/
theorem runOn_guarded [Platform] (alarm : Fault) (state : σ) :
    (contraction.guarded alarm output).runOn state = (contraction.contract output).runOn state := by
  have isChecked := checked tells isOrder isEntries
  cases found : contraction.checkOutput output with
  | error fault =>
      rw [contract_eq, guarded, found]
      rfl
  | ok =>
      rw [found] at isChecked
      cases isChecked with
      | fit nonempty different known =>
          rw [guarded_eq alarm (isEntries ▸ nonempty), contract_eq, runOn_checked found,
            runOn_checked found, isOrder, isEntries, Act.runOn_bind, Act.runOn_bind]
          generalize HasJournal.note _ state = middle
          have ends := accumulated total tells labelled nonempty different known middle
          generalize (accumulate contraction.sum contraction.product
            (touch (Suited.added entries) output) output entries).runOn middle = run at ends ⊢
          obtain ⟨outcome, after⟩ := run
          cases ends with
          | given _ _ isOutput _ =>
              dsimp only
              rw [if_pos isOutput]
          | clash => rfl
          | crowded => rfl

end

/-- The outcome of a contraction of tensors that were all added, with numbers for dimensions, is decided by
the labels and the dimensions, and nothing that is taken for granted on the way to it ever fails to hold. -/
theorem take_decided [Platform] [HasJournal σ] {sum : List V → Act σ V} {product : V → V → Act σ V}
    (total : Total sum product) {added : Contraction σ V L}
    (isAdded : addAll { sum, product } entries = .ok added)
    (tells : Tells key (InUse entries output))
    (typed : ∀ entry ∈ entries, entry.tensor.shape.Numeric) (state : σ) :
    Decided key entries output ((added.take (.ok output)).1.runOn state).1 ∧
      ∀ alarm, (added.guarded alarm output).runOn state = (added.take (.ok output)).1.runOn state := by
  have fit := fit_of_addAll isAdded
  rw [addAll_eq rfl (fun entry inside => (fit entry inside).1) fun entry inside => (fit entry inside).2,
    Except.ok.injEq] at isAdded
  subst isAdded
  have labelled : ∀ entry ∈ entries, ∃ own, entry.Proper (InUse entries output) key own := by
    intro entry inside
    have uses : ∀ label ∈ entry.labels, InUse entries output label := fun label own =>
      .inl (List.mem_flatMap.2 ⟨entry, inside, own⟩)
    exact Entry.exists_proper uses ((nodup_iff_allDifferent tells uses).1 (fit entry inside).2)
      (fit entry inside).1
  exact ⟨contract_decided total tells rfl rfl labelled typed state,
    fun alarm => runOn_guarded total tells rfl rfl labelled alarm state⟩

/-- The contraction of integers with their own sums and products. -/
def integral : Contraction Journal Int Label where
  sum := fun members => pure (Arithmetic.integers.total members)
  product := fun first second => pure (Arithmetic.integers.times first second)

omit [AxisLabel L] [DecidableEq K] in
theorem total_integral : Total integral.sum integral.product :=
  ⟨fun _ state => ⟨_, state, rfl⟩, fun _ _ state => ⟨_, state, rfl⟩⟩

attribute [local instance] Platform.usual in
/-- Two tensors that use a label with different dimensions, with another one added in between, cannot be
contracted, though the label is not asked for. -/
theorem take_decided_far_apart :
    let entries : List (Entry Int Label) :=
      [⟨.ofList [2] [1, 2] rfl, [.int 0]⟩, ⟨.ofList [3] [1, 2, 3] rfl, [.int 1]⟩,
        ⟨.ofList [3] [4, 5, 6] rfl, [.int 0]⟩]
    let output : List Label := [.int 1]
    Total integral.sum integral.product ∧ Tells Label.number (InUse entries output) ∧
      (∀ entry ∈ entries, entry.tensor.shape.Numeric) ∧
      ∃ added, integral.addAll entries = .ok added ∧
        (∃ fault, ((added.take (.ok output)).1.runOn #[]).1 = .error fault ∧
          IsObjection fault ∧ fault.category = .value) ∧
        ∀ alarm, (added.guarded alarm output).runOn #[] = (added.take (.ok output)).1.runOn #[] := by
  intro entries output
  have tells : Tells Label.number (InUse entries output) := by
    apply tells_inUse
    · intro entry inside
      simp [entries] at inside
      rcases inside with rfl | rfl | rfl
      · exact ⟨[0], rfl⟩
      · exact ⟨[1], rfl⟩
      · exact ⟨[0], rfl⟩
    · exact ⟨[1], rfl⟩
  obtain ⟨added, isAdded⟩ : ∃ added, integral.addAll entries = .ok added :=
    ⟨_, addAll_eq rfl (by decide) (by decide)⟩
  have typed : ∀ entry ∈ entries, entry.tensor.shape.Numeric := by decide
  have roomy : Roomy Shape.FitsSpread output (entries.map Entry.outline) := by decide +kernel
  have clashes : ¬OneDimension Label.number entries := fun oneDimension =>
    absurd (oneDimension entries[0] (by simp [entries]) entries[2] (by simp [entries]) (.int 0, 2)
      List.mem_cons_self (.int 0, 3) List.mem_cons_self rfl) (by decide)
  obtain ⟨decided, guards⟩ := take_decided total_integral isAdded tells typed #[]
  refine ⟨total_integral, tells, typed, added, isAdded, ?_, guards⟩
  generalize ((added.take (.ok output)).1.runOn #[]).1 = outcome at decided ⊢
  cases outcome with
  | ok result => exact absurd (decided.returns.1 ⟨result, rfl⟩).1.oneDimension clashes
  | error fault =>
      rcases decided.fails (by simp [entries]) fault rfl with ⟨_, objection⟩ | ⟨short, _⟩
      · exact ⟨fault, rfl, objection⟩
      · exact absurd roomy short

attribute [local instance] Platform.usual in
/-- Without room there may be no result, though nothing is wrong with the labels and the dimensions: a
tensor with 65 axes and a single element cannot be brought into another order of its labels. -/
theorem take_crowded :
    let entries : List (Entry Int Label) := [⟨.ofList (List.replicate 65 1) [3] (by decide),
      (List.range 65).map fun (number : Nat) => .int number⟩]
    let output : List Label := [.int 1]
    Total integral.sum integral.product ∧ Tells Label.number (InUse entries output) ∧
      Contractible Label.number entries output ∧
      (match integral.addAll entries with
        | .error _ => none
        | .ok added =>
            match ((added.take (.ok output)).1.runOn #[]).1 with
            | .error fault => fault.message?
            | .ok _ => none) =
        some "maximum supported dimension for an ndarray is currently 64, found 65" := by
  intro entries output
  refine ⟨total_integral, ?_, ⟨?_, ?_, ?_, ?_⟩, ?_⟩
  · apply tells_inUse
    · intro entry inside
      rw [List.mem_singleton.1 inside]
      exact ⟨(List.range 65).map Int.ofNat, (List.map_map).symm⟩
    · exact ⟨[1], rfl⟩
  · simp [entries]
  · decide
  · intro label inside
    rw [List.mem_singleton.1 inside]
    exact ⟨entries[0], List.mem_cons_self, by decide +kernel⟩
  · have ones : ∀ entry ∈ entries, ∀ pair ∈ entry.outline, pair.2.value = 1 := by
      intro entry inside
      rw [List.mem_singleton.1 inside]
      intro pair among
      rw [List.eq_of_mem_replicate (List.of_mem_zip among).2]
      rfl
    intro left isLeft right isRight first inLeft second inRight _
    rw [ones left isLeft first inLeft, ones right isRight second inRight]
  · decide +kernel

end Contraction

end TensorLogic
