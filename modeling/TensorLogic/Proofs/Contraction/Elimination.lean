/-
Module: TensorLogic.Proofs.Contraction.Elimination
Purpose: A contraction eliminates each label as early as possible.
Main exports: Contraction.records_nextStage, Contraction.records_advance, Contraction.records_contract,
  Contraction.take_eliminates_early
-/
import TensorLogic.Proofs.Contraction.Stage
import TensorLogic.Proofs.Contraction.Verdict

namespace TensorLogic.Contraction

/-!
A stage that succeeds makes the calls that it is to cost: its labels are told from those of the stage
before, and as the product of both was found, the labels of the next tensor are used with the dimensions
that they had before.  So all stages of a contraction that succeeds make progress, from the first to the
last.
-/

variable {σ V L K : Type}

/-! ## From stage to stage -/

section

variable [AxisLabel L] [DecidableEq K] {used : L → Prop} {key : L → K} {dim own : K → Nat}
  (tells : Tells key used) (default : V) {sum : List V → Act σ V} {product : V → V → Act σ V}
  {order needed : List L} (usesOrder : ∀ label ∈ order, used label)
  (differentOrder : (order.map key).Nodup) (usesNeeded : ∀ label ∈ needed, used label)
  {stage : Stage V L} {state after : σ}

include tells usesOrder differentOrder usesNeeded

/-- A first stage that succeeds is the elimination of labels of the first entry. -/
theorem records_firstStage [Platform] {first : Entry V L} (proper : first.Proper used key dim)
    (known : ∀ own ∈ first.keys key, own ∈ order.map key)
    (ran : (firstStage sum order needed first).runOn state = (.ok stage, after)) :
    stage.joined.Proper used key dim ∧ stage.reduced.Proper used key dim ∧
      (∀ own, own ∈ stage.joined.keys key ↔ own ∈ first.keys key) ∧
      (∀ own, own ∈ stage.reduced.keys key ↔ own ∈ stage.joined.keys key ∧ own ∈ needed.map key) ∧
      Records (sumCalls default key dim stage.joined stage.reduced)
        (firstStage (recordedSum sum) order needed first) state stage after := by
  obtain ⟨arranged, _, arranges, ran⟩ := Act.runOn_of_bind ran
  obtain ⟨reduced, _, eliminates, isStage⟩ := Act.runOn_of_bind ran
  obtain ⟨isArranged, rfl⟩ := Prod.mk.inj arranges
  cases isStage
  obtain ⟨properArranged, areArranged, _⟩ :=
    proper.of_arrange default tells usesOrder differentOrder known isArranged
  obtain ⟨properReduced, areReduced, records⟩ :=
    properArranged.records_eliminate default tells usesNeeded eliminates
  refine ⟨properArranged, properReduced, areArranged, areReduced, ?_⟩
  apply (Records.lift isArranged _).bindLeft
  exact records.map fun reduced => (⟨arranged, reduced⟩ : Stage V L)

/-- A next stage that succeeds uses the labels of the next entry with the dimensions that they are used with
in the accumulated one, and calls the product and the sum. -/
theorem records_nextStage [Platform] {accumulated next : Entry V L} (proper : accumulated.Proper used key dim)
    (known : ∀ own ∈ accumulated.keys key, own ∈ order.map key) (properOwn : next.Proper used key own)
    (knownNext : ∀ own ∈ next.keys key, own ∈ order.map key)
    (fresh : ∀ other ∈ next.keys key, other ∉ accumulated.keys key → own other = dim other)
    (ran : (nextStage sum product order needed accumulated next).runOn state = (.ok stage, after)) :
    next.Proper used key dim ∧ stage.joined.Proper used key dim ∧ stage.reduced.Proper used key dim ∧
      (∀ own, own ∈ stage.joined.keys key ↔ own ∈ accumulated.keys key ++ next.keys key) ∧
      (∀ own, own ∈ stage.reduced.keys key ↔ own ∈ stage.joined.keys key ∧ own ∈ needed.map key) ∧
      Records (productCalls default key dim accumulated next stage.joined ++
          sumCalls default key dim stage.joined stage.reduced)
        (nextStage (recordedSum sum) (recordedProduct product) order needed accumulated next) state stage
        after := by
  obtain ⟨arranged, _, arranges, ran⟩ := Act.runOn_of_bind ran
  obtain ⟨joined, middle, joins, ran⟩ := Act.runOn_of_bind ran
  obtain ⟨reduced, _, eliminates, isStage⟩ := Act.runOn_of_bind ran
  obtain ⟨isArranged, rfl⟩ := Prod.mk.inj arranges
  cases isStage
  have properNext : next.Proper used key dim := by
    obtain ⟨properArranged, areArranged, _⟩ :=
      properOwn.of_arrange default tells usesOrder differentOrder knownNext isArranged
    obtain ⟨dimensions, _, _, found, _⟩ := records_join joins
    apply properOwn.of_agree
    intro other inside
    by_cases shared : other ∈ accumulated.keys key
    · by_contra differ
      obtain ⟨fault, clashes, _⟩ := proper.dimensionsOf_clashes tells properArranged shared
        ((areArranged other).2 inside) differ
      rw [found] at clashes
      cases clashes
    · exact fresh other inside shared
  obtain ⟨properArranged, areArranged, elements⟩ :=
    properNext.of_arrange default tells usesOrder differentOrder knownNext isArranged
  obtain ⟨properJoined, areJoined, recordsJoin⟩ := proper.records_join default tells usesOrder
    differentOrder properArranged known (fun own inside => knownNext own ((areArranged own).1 inside)) joins
  obtain ⟨properReduced, areReduced, recordsEliminate⟩ :=
    properJoined.records_eliminate default tells usesNeeded eliminates
  have calls : productCalls default key dim accumulated arranged joined =
      productCalls default key dim accumulated next joined := by
    apply List.map_congr_left
    intro place inside
    have keeps : Keeps dim (joined.keys key) place := ((mem_assignments properJoined.different).1 inside).1
    rw [elements place (keeps.of_subset fun own among =>
      (areJoined own).2 (List.mem_append_right _ among))]
  rw [calls] at recordsJoin
  refine ⟨properNext, properJoined, properReduced, ?_, areReduced, ?_⟩
  · intro own
    rw [areJoined, List.mem_append, List.mem_append, areArranged]
  · apply (Records.lift isArranged _).bindLeft
    apply recordsJoin.bind
    exact recordsEliminate.map fun reduced => (⟨joined, reduced⟩ : Stage V L)

end

/-! ## All stages -/

section

variable [DecidableEq K] {used : L → Prop} {key : L → K} {dim own : K → Nat}

/-- A key that an entry is the first one to mention has the dimension that the entry uses it with. -/
theorem firstDimension_of_fresh {entries : List (Entry V L)} {number : Nat} {entry : Entry V L}
    (isNext : entries[number]? = some entry) (proper : entry.Proper used key own) {other : K}
    (inside : other ∈ entry.keys key) (fresh : other ∉ mentioned key (entries.take number)) :
    own other = firstDimension key (entries.flatMap Entry.outline) other := by
  obtain ⟨bound, rfl⟩ := List.getElem?_eq_some_iff.1 isNext
  have split : entries = entries.take number ++ entries[number] :: entries.drop (number + 1) := by
    rw [← List.drop_eq_getElem_cons bound, List.take_append_drop]
  have different : (entries[number].outline.map fun pair => key pair.1).Nodup := by
    rw [proper.keys_outline]
    exact proper.different
  rw [← proper.keys_outline] at inside
  obtain ⟨pair, among, rfl⟩ := List.mem_map.1 inside
  have freshPair : key pair.1 ∉
      ((entries.take number).flatMap Entry.outline).map fun pair => key pair.1 := by
    intro earlier
    obtain ⟨other, listed, same⟩ := List.mem_map.1 earlier
    obtain ⟨before, isBefore, inOutline⟩ := List.mem_flatMap.1 listed
    apply fresh
    rw [← same]
    exact mem_mentioned.2 ⟨before, isBefore, List.mem_map_of_mem (List.of_mem_zip inOutline).1⟩
  rw [split, List.flatMap_append, List.flatMap_cons, firstDimension_of_mem different among freshPair]
  exact ((proper.sized pair among).2).symm

/-- An entry carries the keys of its labels. -/
theorem Entry.Proper.carries {entry : Entry V L} (proper : entry.Proper used key dim) {all : Finset K}
    (exactly : ∀ own, own ∈ entry.keys key ↔ own ∈ all) : entry.Carries key all := by
  refine ⟨proper.different, ?_⟩
  ext own
  rw [List.mem_toFinset, exactly]

theorem Entry.Carries.mem_iff {entry : Entry V L} {all : Finset K} (carries : entry.Carries key all)
    {own : K} : own ∈ entry.keys key ↔ own ∈ all := by
  rw [← carries.exactly, List.mem_toFinset]

/-- A stage whose product is made over the spanned keys, and of which the needed labels are left, carries
what is still asked for. -/
theorem Stage.carries {entries : List (Entry V L)} {output : List L} {number : Nat} {stage : Stage V L}
    (proper : stage.reduced.Proper used key dim)
    (joins : stage.joined.Carries key (spanned key entries output number))
    (reduced : ∀ own, own ∈ stage.reduced.keys key ↔ own ∈ stage.joined.keys key ∧
      own ∈ (neededBy (entries.drop (number + 1)) output).map key) :
    stage.reduced.Carries key (carried key entries output (number + 1)) := by
  apply proper.carries
  intro own
  rw [reduced, joins.mem_iff, carried_succ, Finset.mem_inter, awaited_eq, List.mem_toFinset]

variable [AxisLabel L] {first : Entry V L} {rest : List (Entry V L)} {output : List L}

omit [AxisLabel L] [DecidableEq K] in
theorem inUse_needed {entries : List (Entry V L)} (count : Nat) :
    ∀ label ∈ neededBy (entries.drop count) output, InUse entries output label := by
  intro label inside
  rcases List.mem_append.1 inside with later | last
  · obtain ⟨entry, among, mentions⟩ := List.mem_flatMap.1 later
    exact .inl (List.mem_flatMap.2 ⟨entry, List.mem_of_mem_drop among, mentions⟩)
  · exact .inr last

/-- Each stage that is come to makes progress, with the calls that are recorded until then. -/
theorem records_advance [Platform] (tells : Tells key (InUse (first :: rest) output))
    (labelled : ∀ entry ∈ first :: rest, ∃ own, entry.Proper (InUse (first :: rest) output) key own)
    (isDim : firstDimension key ((first :: rest).flatMap Entry.outline) = dim) (default : V)
    {sum : List V → Act σ V} {product : V → V → Act σ V} {state after : σ} {stage : Stage V L}
    {number : Nat} (bound : number ≤ rest.length)
    (ran : (advance sum product (touch (Suited.added (first :: rest)) output) output first rest
      number).runOn state = (.ok stage, after)) :
    ∃ calls,
      Progress (fun number stage calls => ∃ passed, Records calls
          (advance (recordedSum sum) (recordedProduct product) (touch (Suited.added (first :: rest)) output)
            output first rest number) state stage passed)
        default key dim (first :: rest) output number stage calls ∧
      stage.reduced.Proper (InUse (first :: rest) output) key dim ∧
      (∀ entry ∈ (first :: rest).take (number + 1),
        entry.Proper (InUse (first :: rest) output) key dim) ∧
      Records calls (advance (recordedSum sum) (recordedProduct product)
        (touch (Suited.added (first :: rest)) output) output first rest number) state stage after := by
  have usesOrder : ∀ label ∈ touch (Suited.added (first :: rest)) output,
      InUse (first :: rest) output label := Suited.uses_order
  have differentOrder := Suited.nodup_keys_order tells
  have known : ∀ entry ∈ first :: rest, ∀ own ∈ entry.keys key,
      own ∈ (touch (Suited.added (first :: rest)) output).map key := fun _ inside _ =>
    Suited.mem_keys_order tells inside
  induction number generalizing stage after with
  | zero =>
      obtain ⟨own, properOwn⟩ := labelled first List.mem_cons_self
      have proper : first.Proper (InUse (first :: rest) output) key dim := properOwn.of_agree
        fun other inside => isDim ▸ firstDimension_of_fresh List.getElem?_cons_zero properOwn inside
          (by simp [mentioned])
      obtain ⟨properJoined, properReduced, areJoined, areReduced, records⟩ :=
        records_firstStage tells default usesOrder differentOrder (inUse_needed 1) proper
          (known first List.mem_cons_self) ran
      have joins : stage.joined.Carries key (spanned key (first :: rest) output 0) := by
        apply properJoined.carries
        intro own
        simp [areJoined, spanned, carried, mentioned]
      refine ⟨_, .first ⟨after, records⟩ joins (Stage.carries properReduced joins areReduced),
        properReduced, ?_, records⟩
      intro entry inside
      obtain rfl : entry = first := by simpa using inside
      exact proper
  | succ number hypothesis =>
      obtain ⟨before, middle, ranBefore, ranNext⟩ := Act.runOn_of_bind ran
      obtain ⟨earlier, progress, proper, propers, records⟩ := hypothesis (by omega) ranBefore
      obtain ⟨next, isNext⟩ : ∃ next, rest[number]? = some next :=
        ⟨_, List.getElem?_eq_getElem bound⟩
      have isEntry : (first :: rest)[number + 1]? = some next := isNext
      have inside : next ∈ first :: rest := List.mem_of_getElem? isEntry
      have knownBefore : ∀ own ∈ before.reduced.keys key,
          own ∈ (touch (Suited.added (first :: rest)) output).map key := by
        intro own among
        obtain ⟨entry, isBefore, mentions⟩ :=
          mem_mentioned.1 (Finset.mem_inter.1 (progress.reduces.mem_iff.1 among)).1
        exact known entry (List.mem_of_mem_take isBefore) own mentions
      obtain ⟨own, properOwn⟩ := labelled next inside
      have fresh : ∀ other ∈ next.keys key, other ∉ before.reduced.keys key → own other = dim other := by
        intro other among absent
        rw [← isDim]
        apply firstDimension_of_fresh isEntry properOwn among
        intro earlier
        exact absent (progress.reduces.mem_iff.2 (mem_carried isEntry among earlier))
      rw [isNext] at ranNext
      obtain ⟨properNext, properJoined, properReduced, areJoined, areReduced, recordsNext⟩ :=
        records_nextStage tells default usesOrder differentOrder (inUse_needed (number + 2)) proper
          knownBefore properOwn (known next inside) fresh ranNext
      have joins : stage.joined.Carries key (spanned key (first :: rest) output (number + 1)) := by
        apply properJoined.carries
        intro own
        simp [areJoined, spanned, progress.reduces.mem_iff, mentioned, isNext]
      have recordsBoth : Records (earlier ++ (productCalls default key dim before.reduced next
            stage.joined ++ sumCalls default key dim stage.joined stage.reduced))
          (advance (recordedSum sum) (recordedProduct product)
            (touch (Suited.added (first :: rest)) output) output first rest (number + 1)) state stage
          after := by
        apply records.bind
        rw [isNext]
        exact recordsNext
      refine ⟨_, .next progress isEntry ⟨after, recordsBoth⟩ joins
        (Stage.carries properReduced joins areReduced), properReduced, ?_, recordsBoth⟩
      · intro entry among
        rw [List.take_add_one, isEntry, List.mem_append] at among
        rcases among with earlier | last
        · exact propers entry earlier
        · obtain rfl : entry = next := by simpa using last
          exact properNext

variable [HasJournal σ]

omit [DecidableEq K] in
/-- A contraction whose output is right comes to the stages of its entries, once it is noted. -/
theorem Records.stage_of_advance [Platform] {contraction : Contraction σ V L} {state passed : σ}
    {number : Nat} {stage : Stage V L} {calls : List (Invocation V)}
    (isChecked : contraction.checkOutput output = .ok ()) (isEntries : contraction.entries = first :: rest)
    (records : Records calls
      (advance (recordedSum contraction.sum) (recordedProduct contraction.product)
        (touch contraction.order output) output first rest number)
      (HasJournal.note (.contracting contraction.pending (touch contraction.order output).length
        (AxisLabel.tupleText output)) state) stage passed) :
    Records calls (contraction.recording.stage output number) state stage passed := by
  obtain ⟨sum, product, order, entries, consumed⟩ := contraction
  subst isEntries
  apply (Records.lift isChecked state).bindLeft
  exact (Records.announce _ state).bindLeft records

/-- A stage that a contraction comes to is reached by the recorded calls.  The induction is on the number of
the stage, and each one adds the calls of its own step. -/
theorem records_stage [Platform] (tells : Tells key (InUse (first :: rest) output))
    (labelled : ∀ entry ∈ first :: rest, ∃ own, entry.Proper (InUse (first :: rest) output) key own)
    (isDim : firstDimension key ((first :: rest).flatMap Entry.outline) = dim) (default : V)
    {contraction : Contraction σ V L} (isOrder : contraction.order = Suited.added (first :: rest))
    (isEntries : contraction.entries = first :: rest) {state after : σ} {stage : Stage V L}
    {number : Nat} (bound : number ≤ rest.length)
    (ran : (contraction.stage output number).runOn state = (.ok stage, after)) :
    ∃ calls,
      Progress (contraction.recording.Reaches output state) default key dim (first :: rest) output number
        stage calls ∧
      (∀ entry ∈ (first :: rest).take (number + 1),
        entry.Proper (InUse (first :: rest) output) key dim) ∧
      Records calls (contraction.recording.stage output number) state stage after := by
  obtain ⟨sum, product, order, entries, consumed⟩ := contraction
  subst isOrder isEntries
  obtain ⟨_, _, checks, ran⟩ := Act.runOn_of_bind ran
  obtain ⟨_, _, announces, ran⟩ := Act.runOn_of_bind ran
  obtain ⟨isChecked, rfl⟩ := Prod.mk.inj checks
  cases announces
  obtain ⟨calls, progress, _, propers, records⟩ := records_advance tells labelled isDim default bound ran
  refine ⟨calls, progress.mono ?_, propers, records.stage_of_advance isChecked rfl⟩
  rintro number stage calls ⟨passed, records⟩
  exact ⟨passed, records.stage_of_advance isChecked rfl []⟩

/-- A contraction that succeeds makes progress through the stages of all of its tensors, and makes the calls
that are recorded until the last one. -/
theorem records_contract [Platform] (tells : Tells key (InUse (first :: rest) output))
    (labelled : ∀ entry ∈ first :: rest, ∃ own, entry.Proper (InUse (first :: rest) output) key own)
    (isDim : firstDimension key ((first :: rest).flatMap Entry.outline) = dim) (default : V)
    {contraction : Contraction σ V L} (isOrder : contraction.order = Suited.added (first :: rest))
    (isEntries : contraction.entries = first :: rest) {state after : σ} {result : Tensor V}
    (ran : (contraction.contract output).runOn state = (.ok result, after)) :
    (∀ entry ∈ first :: rest, entry.Proper (InUse (first :: rest) output) key dim) ∧
      (∀ number ≤ rest.length, ∃ stage calls,
        Progress (contraction.recording.Reaches output state) default key dim (first :: rest) output number
          stage calls) ∧
      ∃ stage calls,
        Progress (contraction.recording.Reaches output state) default key dim (first :: rest) output
          rest.length stage calls ∧
        Records calls (contraction.recording.contract output) state result after := by
  have reaches : ∀ number ≤ rest.length, ∃ stage passed calls,
      Progress (contraction.recording.Reaches output state) default key dim (first :: rest) output number
        stage calls ∧
        (∀ entry ∈ (first :: rest).take (number + 1),
          entry.Proper (InUse (first :: rest) output) key dim) ∧
        Records calls (contraction.recording.stage output number) state stage passed ∧
        (contraction.finish output number stage).runOn passed = (.ok result, after) := by
    intro number bound
    rw [contract_eq_stage contraction output number] at ran
    obtain ⟨stage, passed, reaches, finishes⟩ := Act.runOn_of_bind ran
    obtain ⟨calls, progress, propers, records⟩ :=
      records_stage tells labelled isDim default isOrder isEntries bound reaches
    exact ⟨stage, passed, calls, progress, propers, records, finishes⟩
  obtain ⟨stage, passed, calls, progress, propers, records, finishes⟩ := reaches rest.length le_rfl
  refine ⟨?_, ?_, stage, calls, progress, ?_⟩
  · rwa [List.take_of_length_le (by simp)] at propers
  · intro number bound
    obtain ⟨stage, passed, calls, progress, _⟩ := reaches number bound
    exact ⟨stage, calls, progress⟩
  · have isLast : contraction.entries.length ≤ rest.length + 1 := by simp [isEntries]
    rw [finish_last output isLast] at finishes
    cases finishes
    have isLastRecorded : contraction.recording.entries.length ≤ rest.length + 1 := isLast
    rw [contract_eq_stage _ _ rest.length, ← List.append_nil calls]
    apply records.bind
    rw [finish_last output isLastRecorded]
    exact .pure _ _

/-- Labels are eliminated as early as possible.  After each tensor, the accumulated one carries just the
labels that were mentioned so far and are still asked for, and until then the product and the sum are called
just as often as that takes. -/
theorem take_eliminates_early [Platform] {entries : List (Entry V L)} {sum : List V → Act σ V}
    {product : V → V → Act σ V} {added : Contraction σ V L}
    (isAdded : addAll { sum, product } entries = .ok added)
    (tells : Tells key (InUse entries output)) (default : V) {state after : σ} {result : Tensor V}
    (ran : (added.take (.ok output)).1.runOn state = (.ok result, after)) :
    ∃ dim : K → Nat,
      (∀ entry ∈ entries, entry.tensor.shape.values = (entry.keys key).map dim) ∧
      (∀ number < entries.length,
        (added.recording.take (.ok output)).1 =
            added.recording.stage output number >>= added.recording.finish output number ∧
          ∃ stage calls, added.recording.Reaches output state number stage calls ∧
            stage.reduced.Carries key (carried key entries output (number + 1)) ∧
            Progress (added.recording.Reaches output state) default key dim entries output number stage
              calls ∧
            calls.countP Invocation.isProduct = productCost key dim entries output (number + 1) ∧
            calls.countP Invocation.isSum = sumCost key dim entries output (number + 1)) ∧
      ∃ calls,
        (added.recording.take (.ok output)).1.runOn ⟨state, []⟩ = (.ok result, ⟨after, calls⟩) ∧
        calls.countP Invocation.isProduct = productCost key dim entries output entries.length ∧
        calls.countP Invocation.isSum = sumCost key dim entries output entries.length := by
  have labelled := exists_proper_of_addAll isAdded tells
  have fit := fit_of_addAll isAdded
  rw [addAll_eq rfl (fun entry inside => (fit entry inside).1) fun entry inside => (fit entry inside).2,
    Except.ok.injEq] at isAdded
  subst isAdded
  cases entries with
  | nil => cases ran
  | cons first rest =>
      obtain ⟨propers, reaches, stage, calls, progress, records⟩ :=
        records_contract tells labelled rfl default rfl rfl ran
      refine ⟨_, fun entry inside => (propers entry inside).isShape, ?_, calls, records [],
        progress.countP_isProduct, progress.countP_isSum⟩
      intro number bound
      obtain ⟨stage, calls, progress⟩ := reaches number (Nat.le_of_lt_succ bound)
      exact ⟨contract_eq_stage _ _ _, stage, calls, progress.reaches, progress.reduces, progress,
        progress.countP_isProduct, progress.countP_isSum⟩

attribute [local instance] Platform.usual in
/-- A chain of three matrices takes sixteen products, where the broadcast product of all three would take
thirty-two, and sums over each inner label once the second one of its matrices is multiplied. -/
theorem take_eliminates_early_chain :
    let entries : List (Entry Int Label) :=
      [⟨.ofList [2, 2] [1, 2, 3, 4] rfl, [.int 0, .int 1]⟩,
        ⟨.ofList [2, 2] [5, 6, 7, 8] rfl, [.int 1, .int 2]⟩,
        ⟨.ofList [2, 2] [1, 0, 2, 1] rfl, [.int 2, .int 3]⟩]
    let output : List Label := [.int 0, .int 3]
    Tells Label.number (InUse entries output) ∧
      ∃ added, integral.addAll entries = .ok added ∧
        ∃ result after calls, (added.take (.ok output)).1.runOn #[] = (.ok result, after) ∧
          (added.recording.take (.ok output)).1.runOn ⟨#[], []⟩ = (.ok result, ⟨after, calls⟩) ∧
          calls.countP Invocation.isProduct = 16 ∧ calls.countP Invocation.isSum = 8 := by
  intro entries output
  have tells : Tells Label.number (InUse entries output) := by
    apply tells_inUse
    · intro entry inside
      simp [entries] at inside
      rcases inside with rfl | rfl | rfl
      · exact ⟨[0, 1], rfl⟩
      · exact ⟨[1, 2], rfl⟩
      · exact ⟨[2, 3], rfl⟩
    · exact ⟨[0, 3], rfl⟩
  obtain ⟨added, isAdded⟩ : ∃ added, integral.addAll entries = .ok added :=
    ⟨_, addAll_eq rfl (by decide) (by decide)⟩
  have succeeds : ((integral.addAll entries).toOption.bind fun added =>
      ((added.take (.ok output)).1.runOn #[]).1.toOption).isSome = true := by decide +kernel
  rw [isAdded] at succeeds
  obtain ⟨result, isResult⟩ := Option.isSome_iff_exists.1 succeeds
  obtain ⟨after, ran⟩ : ∃ after, (added.take (.ok output)).1.runOn #[] = (.ok result, after) := by
    change ((added.take (.ok output)).1.runOn #[]).1.toOption = some result at isResult
    generalize (added.take (.ok output)).1.runOn #[] = run at isResult
    obtain ⟨outcome, after⟩ := run
    cases outcome with
    | error => cases isResult
    | ok value => exact ⟨after, by rw [Option.some.inj isResult]⟩
  obtain ⟨dim, isShape, _, calls, recorded, products, sums⟩ :=
    take_eliminates_early isAdded tells 0 ran
  have outer : [2, 2] = [dim 0, dim 1] := isShape entries[0] (by simp [entries])
  have inner : [2, 2] = [dim 2, dim 3] := isShape entries[2] (by simp [entries])
  simp only [List.cons.injEq, and_true] at outer inner
  have spans : spanned Label.number entries output 0 = {0, 1} ∧
      spanned Label.number entries output 1 = {0, 1, 2} ∧
      spanned Label.number entries output 2 = {0, 2, 3} := by decide
  have carries : carried Label.number entries output 1 = {0, 1} ∧
      carried Label.number entries output 2 = {0, 2} ∧
      carried Label.number entries output 3 = {0, 3} := by decide
  refine ⟨tells, added, isAdded, result, after, calls, ran, recorded, products.trans ?_, sums.trans ?_⟩
  · change ∑ number ∈ Finset.Ico 1 3, _ = _
    simp [Finset.sum_Ico_succ_top, spans, ← outer.1, ← outer.2, ← inner.1, ← inner.2]
  · change ∑ number ∈ Finset.range 3, _ = _
    simp [Finset.sum_range_succ, spans, carries, ← outer.1, ← inner.1, ← inner.2]

end

end TensorLogic.Contraction
