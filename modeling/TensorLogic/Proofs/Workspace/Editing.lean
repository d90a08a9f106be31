/-
Module: TensorLogic.Proofs.Workspace.Editing
Purpose: What editing blocks, edits and remembered hashes come to, over every run of a workspace.
Main exports: Workspace.Call, Workspace.Open, Workspace.Ran, Workspace.Kept, Workspace.Ran.kept,
  Workspace.Protocol, Workspace.editing_protocol
-/
import TensorLogic.Proofs.Tensor.Locating
import TensorLogic.Proofs.Workspace.Hashing

namespace TensorLogic

/-!
Editing blocks of different tensors may overlap in any way, and a block may be left because of a fault.  So
a run is a sequence of calls, among them the entrance into a block and its end, and whether a tensor is in
a block is read off the calls alone: the last entrance that succeeded has not been followed by an end.

That a workspace keeps to this is shown call by call.  What it keeps are two facts about each tensor: its
mark says that it is in a block exactly when it is in one, and outside of blocks a hash that it remembers is
the hash of its elements.
-/

namespace Workspace

/-- What can be done to the tensors of a workspace. -/
inductive Call where
  | create (dimensions : Item) (tensor : Tensor Datum)
  | hash (handle : Handle)
  | enter (handle : Handle)
  | leave (handle : Handle)
  | set (handle : Handle) (value : Datum) (index : List Datum)

/-- What a call returns. -/
inductive Answer where
  | handle (handle : Handle)
  | digest (digest : UInt64)
  | done

/-- Do what a call says. -/
def Call.run : Call → Act Workspace Answer
  | create dimensions tensor => .handle <$> addWith dimensions tensor
  | hash handle => .digest <$> Workspace.hash handle
  | enter handle => (fun _ => .done) <$> acquire handle
  | leave handle => (fun _ => .done) <$> release handle
  | set handle value index => (fun _ => .done) <$> setElem handle value index

/-- A call and its outcome. -/
structure Moment where
  call : Call
  outcome : Except Fault Answer

/-- Whether a tensor is in an editing block after some calls, of which the latest one comes first. -/
def Open (handle : Handle) : List Moment → Prop
  | [] => False
  | ⟨.enter other, .ok _⟩ :: earlier => other = handle ∨ Open handle earlier
  | ⟨.leave other, _⟩ :: earlier => other ≠ handle ∧ Open handle earlier
  | _ :: earlier => Open handle earlier

/-- The calls that led to a workspace.  Names may be bound and objects come in at any time, and only a block
that was entered can end. -/
inductive Ran : List Moment → Workspace → Prop
  | created : Ran [] {}
  | elapsed {history : List Moment} {workspace later : Workspace} :
      Ran history workspace → later.slots = workspace.slots → Ran history later
  | called {history : List Moment} {workspace : Workspace} (call : Call) :
      Ran history workspace → (∀ handle, call = .leave handle → Open handle history) →
        Ran (⟨call, (call.run.runOn workspace).1⟩ :: history) (call.run.runOn workspace).2

/-! ## What each operation does -/

section

variable {workspace : Workspace} {handle : Handle} {found : Slot}

/-- The workspace with something else under a handle. -/
def put (workspace : Workspace) (handle : Handle) (slot : Slot) : Workspace :=
  { workspace with slots := workspace.slots.setIfInBounds handle slot }

theorem slots_put_self (stored : workspace.slots[handle]? = some found) (slot : Slot) :
    (workspace.put handle slot).slots[handle]? = some slot := by
  have bound : handle < workspace.slots.size := (Array.getElem?_eq_some_iff.1 stored).1
  exact Array.getElem?_setIfInBounds_self_of_lt bound

/-- Putting something into a slot leaves the other slots alone. -/
theorem slots_put_ne {other : Handle} (apart : other ≠ handle) (slot : Slot) :
    (workspace.put handle slot).slots[other]? = workspace.slots[other]? :=
  Array.getElem?_setIfInBounds_ne apart.symm

theorem runOn_store (slot : Slot) :
    (store handle slot).runOn workspace = (.ok (), workspace.put handle slot) := rfl

theorem runOn_slot (stored : workspace.slots[handle]? = some found) :
    (slot handle).runOn workspace = (.ok found, workspace) := by
  unfold slot
  rw [Act.runOn_bind_ok (Act.runOn_get workspace), stored]
  rfl

theorem runOn_missing (missing : workspace.slots[handle]? = none) :
    (slot handle).runOn workspace = (.error (.unbound ""), workspace) := by
  unfold slot
  rw [Act.runOn_bind_ok (Act.runOn_get workspace), missing]
  rfl

/-- A tensor that comes in is not edited, and no hash of it is remembered. -/
theorem runOn_addWith (workspace : Workspace) (dimensions : Item) (tensor : Tensor Datum) :
    ∃ (later : Workspace) (site : Site) (place : Item),
      (addWith dimensions tensor).runOn workspace = (.ok workspace.slots.size, later) ∧
        later.slots = workspace.slots.push { tensor := tensor.placed site, dimensions := place } :=
  ⟨_, _, _, rfl, rfl⟩

/-- A tensor is taken for editing unless it is being edited already. -/
theorem runOn_acquire (stored : workspace.slots[handle]? = some found) :
    (acquire handle).runOn workspace =
      if found.isEdited then (.error .alreadyEditing, workspace)
      else (.ok (), workspace.put handle { found with isEdited := true }) := by
  unfold acquire
  rw [Act.runOn_bind_ok (runOn_slot stored)]
  split <;> rfl

/-- A tensor that is released is not edited any more, and its hash is forgotten. -/
theorem runOn_release (stored : workspace.slots[handle]? = some found) :
    (release handle).runOn workspace =
      (.ok (), workspace.put handle { found with isEdited := false, hash? := none }) := by
  unfold release
  rw [Act.runOn_bind_ok (runOn_slot stored), runOn_store]

/-- An element is set only in a tensor that is being edited, and at an index of it. -/
theorem runOn_setElem (stored : workspace.slots[handle]? = some found) (value : Datum)
    (index : List Datum) :
    (setElem handle value index).runOn workspace =
      if found.isEdited then
        match found.tensor.shape.locate index with
        | .ok ⟨place, within⟩ =>
            (.ok (), workspace.put handle { found with tensor := found.tensor.set place within value })
        | .error fault => (.error fault, workspace)
      else (.error .notEditing, workspace) := by
  unfold setElem
  rw [Act.runOn_bind_ok (runOn_slot stored)]
  split
  · cases isPlace : found.tensor.shape.locate index with
    | ok place =>
        have changed : found.tensor.update value index =
            .ok (found.tensor.set place.val place.property value) := by
          rw [Tensor.update, isPlace]
          rfl
        rw [changed]
        rfl
    | error fault =>
        have refused : found.tensor.update value index = .error fault := by
          rw [Tensor.update, isPlace]
          rfl
        rw [refused]
        rfl
  · rfl

/-- A hash that is known is not computed again, and a new one is kept unless the tensor is being edited. -/
theorem runOn_hash (stored : workspace.slots[handle]? = some found) :
    (hash handle).runOn workspace =
      match found.hash?, found.tensor.hash with
      | some digest, _ => (.ok digest, workspace)
      | none, .error fault => (.error fault, workspace)
      | none, .ok digest =>
          (.ok digest, if found.isEdited then workspace
            else workspace.put handle { found with hash? := some digest }) := by
  unfold hash
  rw [Act.runOn_bind_ok (runOn_slot stored)]
  cases found.hash? with
  | some digest => rfl
  | none =>
      cases found.tensor.hash with
      | error fault => rfl
      | ok digest => cases found.isEdited <;> rfl

theorem runOn_attempt {α : Type} (block : Act Workspace α) :
    (attempt block).runOn workspace = (.ok (block.runOn workspace).1, (block.runOn workspace).2) := rfl

/-- A block that was entered ends in the same way whatever its outcome is, and the outcome is passed on. -/
theorem runOn_editing {entered : Workspace} (acquired : (acquire handle).runOn workspace = (.ok (), entered))
    {α : Type} (block : Act Workspace α)
    (stored : (block.runOn entered).2.slots[handle]? = some found) :
    (editing handle block).runOn workspace =
      ((block.runOn entered).1, ((release handle).runOn (block.runOn entered).2).2) := by
  unfold editing
  rw [Act.runOn_bind_ok acquired, Act.runOn_bind_ok (runOn_attempt block),
    Act.runOn_bind_ok (runOn_release stored), runOn_release stored]
  rfl

end

/-! ## What every call keeps -/

/-- A tensor is marked as edited when it is in a block, and otherwise a hash that it remembers is that of
its elements. -/
structure Slot.Fits (slot : Slot) (isOpen : Prop) : Prop where
  edited : slot.isEdited = true ↔ isOpen
  remembered : slot.isEdited = false → ∀ digest, slot.hash? = some digest →
    slot.tensor.hash = .ok digest

/-- What a workspace keeps to after some calls. -/
structure Kept (history : List Moment) (workspace : Workspace) : Prop where
  fits : ∀ {handle : Handle} {slot : Slot}, workspace.slots[handle]? = some slot →
    slot.Fits (Open handle history)
  stored : ∀ {handle : Handle}, Open handle history → ∃ slot, workspace.slots[handle]? = some slot

namespace Kept

variable {history later : List Moment} {workspace : Workspace} {handle : Handle}

/-- The books stay right as long as the same blocks are open. -/
theorem unchanged (kept : Kept history workspace)
    (same : ∀ other, Open other later ↔ Open other history) : Kept later workspace where
  fits := by
    intro other slot isSlot
    have fits := kept.fits isSlot
    exact ⟨fits.edited.trans (same other).symm, fits.remembered⟩
  stored := fun isOpen => kept.stored ((same _).1 isOpen)

/-- What is put in place of a tensor has to fit only under the handle of that one. -/
theorem put (kept : Kept history workspace) {found slot : Slot}
    (stored : workspace.slots[handle]? = some found) (fits : slot.Fits (Open handle later))
    (same : ∀ other, other ≠ handle → (Open other later ↔ Open other history)) :
    Kept later (workspace.put handle slot) where
  fits := by
    intro other current isCurrent
    by_cases isHandle : other = handle
    · subst isHandle
      rw [slots_put_self stored] at isCurrent
      obtain rfl := Option.some.inj isCurrent
      exact fits
    · rw [slots_put_ne isHandle] at isCurrent
      have others := kept.fits isCurrent
      exact ⟨others.edited.trans (same other isHandle).symm, others.remembered⟩
  stored := by
    intro other isOpen
    by_cases isHandle : other = handle
    · subst isHandle
      exact ⟨slot, slots_put_self stored slot⟩
    · rw [slots_put_ne isHandle]
      exact kept.stored ((same other isHandle).1 isOpen)

/-- A tensor that is created is not being edited, and has no hash yet. -/
theorem created (kept : Kept history workspace) (dimensions : Item) (tensor : Tensor Datum) :
    Kept (⟨.create dimensions tensor, .ok (.handle workspace.slots.size)⟩ :: history)
      ((addWith dimensions tensor).runOn workspace).2 := by
  rcases runOn_addWith workspace dimensions tensor with ⟨later, site, place, added, isPushed⟩
  rw [added]
  -- Only stored tensors have open blocks, so the handle that comes next has none.
  have notOpen : ¬ Open workspace.slots.size history := by
    intro isOpen
    rcases kept.stored isOpen with ⟨found, stored⟩
    exact absurd (Array.getElem?_eq_some_iff.1 stored).1 (Nat.lt_irrefl _)
  constructor
  · intro handle current isCurrent
    rw [isPushed, Array.getElem?_push] at isCurrent
    split at isCurrent
    · next isLast =>
        obtain rfl := Option.some.inj isCurrent
        subst isLast
        constructor
        · exact iff_of_false Bool.false_ne_true notOpen
        · rintro _ digest ⟨⟩
    · exact ⟨(kept.fits isCurrent).edited, (kept.fits isCurrent).remembered⟩
  · intro handle isOpen
    rcases kept.stored isOpen with ⟨found, stored⟩
    refine ⟨found, ?_⟩
    have bound := (Array.getElem?_eq_some_iff.1 stored).1
    rw [isPushed, Array.getElem?_push, if_neg (Nat.ne_of_lt bound)]
    exact stored

/-- Asking for a hash keeps the books right, whether it is known or not. -/
theorem hashed (kept : Kept history workspace) (outcome : Except Fault Answer) :
    Kept (⟨.hash handle, outcome⟩ :: history) ((hash handle).runOn workspace).2 := by
  have unchanged : Kept (⟨.hash handle, outcome⟩ :: history) workspace :=
    kept.unchanged fun _ => Iff.rfl
  cases stored : workspace.slots[handle]? with
  | none =>
      rw [hash, Act.runOn_bind_error (runOn_missing stored)]
      exact unchanged
  | some found =>
      have fits := kept.fits stored
      rw [runOn_hash stored]
      split
      · exact unchanged
      · exact unchanged
      · next digest noHash isDigest =>
          cases isEdited : found.isEdited with
          | true => exact unchanged
          | false =>
              refine kept.put stored ⟨isEdited ▸ fits.edited, ?_⟩ fun other _ => Iff.rfl
              rintro _ remembered ⟨⟩
              exact isDigest

/-- Entering a block opens it for its tensor, or is refused where it is open already. -/
theorem entered (kept : Kept history workspace) :
    Kept (⟨.enter handle, ((Call.enter handle).run.runOn workspace).1⟩ :: history)
      ((Call.enter handle).run.runOn workspace).2 := by
  rw [Call.run, Act.runOn_map]
  cases stored : workspace.slots[handle]? with
  | none =>
      rw [acquire, Act.runOn_bind_error (runOn_missing stored)]
      exact kept.unchanged fun _ => Iff.rfl
  | some found =>
      rw [runOn_acquire stored]
      split
      · exact kept.unchanged fun _ => Iff.rfl
      · refine kept.put stored ⟨?_, ?_⟩ ?_
        · exact iff_of_true rfl (.inl rfl)
        · intro notEdited
          cases notEdited
        · intro other apart
          exact ⟨fun isOpen => isOpen.resolve_left (Ne.symm apart), .inr⟩

/-- Leaving a block closes it, and what was set in it stands. -/
theorem left (kept : Kept history workspace) (isOpen : Open handle history)
    (outcome : Except Fault Answer) :
    Kept (⟨.leave handle, outcome⟩ :: history) ((release handle).runOn workspace).2 := by
  rcases kept.stored isOpen with ⟨found, stored⟩
  rw [runOn_release stored]
  refine kept.put stored ⟨?_, ?_⟩ ?_
  · exact iff_of_false Bool.false_ne_true fun stays => stays.1 rfl
  · rintro _ digest ⟨⟩
  · intro other apart
    exact ⟨fun later => later.2, fun earlier => ⟨Ne.symm apart, earlier⟩⟩

/-- Setting an element keeps the books right, as it is refused outside a block. -/
theorem edited (kept : Kept history workspace) (value : Datum) (index : List Datum)
    (outcome : Except Fault Answer) :
    Kept (⟨.set handle value index, outcome⟩ :: history)
      ((setElem handle value index).runOn workspace).2 := by
  have unchanged : Kept (⟨.set handle value index, outcome⟩ :: history) workspace :=
    kept.unchanged fun _ => Iff.rfl
  cases stored : workspace.slots[handle]? with
  | none =>
      rw [setElem, Act.runOn_bind_error (runOn_missing stored)]
      exact unchanged
  | some found =>
      have fits := kept.fits stored
      rw [runOn_setElem stored]
      cases isEdited : found.isEdited with
      | false => exact unchanged
      | true =>
          cases found.tensor.shape.locate index with
          | error fault => exact unchanged
          | ok place =>
              -- The remembered hash goes stale here, which is allowed as long as the block is open.
              refine kept.put stored ⟨isEdited ▸ fits.edited, ?_⟩ fun other _ => Iff.rfl
              intro notEdited
              cases notEdited

end Kept

/-- A workspace keeps to it in every run. -/
theorem Ran.kept {history : List Moment} {workspace : Workspace} (ran : Ran history workspace) :
    Kept history workspace := by
  -- The induction is on the calls, each of which has its own lemma; only the end of a block asks for more
  -- than what is kept, namely that the block is open.
  induction ran with
  | created =>
      constructor
      · intro handle slot stored
        simp at stored
      · intro handle isOpen
        exact isOpen.elim
  | elapsed _ same kept =>
      constructor
      · intro handle slot stored
        exact kept.fits (same ▸ stored)
      · intro handle isOpen
        rw [same]
        exact kept.stored isOpen
  | @called history workspace call _ mayLeave kept =>
      cases call with
      | create dimensions tensor => exact kept.created dimensions tensor
      | hash handle =>
          rw [Call.run, Act.runOn_map]
          exact kept.hashed _
      | enter handle => exact kept.entered
      | leave handle =>
          rw [Call.run, Act.runOn_map]
          exact kept.left (mayLeave handle rfl) _
      | set handle value index =>
          rw [Call.run, Act.runOn_map]
          exact kept.edited value index _

/-! ## Outcomes at any time -/

/-- A computation fails for a reason of some kind and changes nothing. -/
def Refuses {α : Type} (workspace : Workspace) (category : Fault.Category) (action : Act Workspace α) :
    Prop :=
  ∃ fault, fault.category = category ∧ action.runOn workspace = (.error fault, workspace)

/-- What the operations on the tensors of a workspace come to after some calls. -/
structure Protocol (history : List Moment) (workspace : Workspace) : Prop where
  /-- Inside a block of a tensor, an edit replaces the element that the index names, and nothing else. -/
  replaced : ∀ {handle : Handle} {slot : Slot} {index : Index} {given : List Whole} (value : Datum),
    workspace.slots[handle]? = some slot → Open handle history → Within index slot.tensor.shape →
      index.Named given →
        ∃ (after : Workspace) (tensor : Tensor Datum),
          (setElem handle value (given.map .ofWhole)).runOn workspace = (.ok (), after) ∧
          after.slots[handle]? = some { slot with tensor := tensor } ∧
          slot.tensor.Replaces index value tensor ∧
          (∀ other, other ≠ handle → after.slots[other]? = workspace.slots[other]?) ∧
          after.names = workspace.names
  /-- Inside a block, an index that names no element is refused. -/
  misplaced : ∀ {handle : Handle} {slot : Slot} {given : List Whole} (value : Datum),
    workspace.slots[handle]? = some slot → Open handle history →
      (∀ index, Within index slot.tensor.shape → ¬ index.Named given) →
        workspace.Refuses .index (setElem handle value (given.map .ofWhole))
  /-- Outside of the blocks of a tensor every edit of it is refused. -/
  frozen : ∀ {handle : Handle} {slot : Slot} (value : Datum) (index : List Datum),
    workspace.slots[handle]? = some slot → ¬ Open handle history →
      workspace.Refuses .state (setElem handle value index)
  /-- A block of a tensor cannot be entered inside another one, which goes on. -/
  nested : ∀ {handle : Handle} {α : Type} (block : Act Workspace α), Open handle history →
    workspace.Refuses .state (editing handle block)
  /-- Otherwise it is entered.  Whatever happens inside, the block ends with its outcome. -/
  entered : ∀ {handle : Handle} {slot : Slot}, workspace.slots[handle]? = some slot →
    ¬ Open handle history →
      ∃ entered, (acquire handle).runOn workspace = (.ok (), entered) ∧
        Ran (⟨.enter handle, .ok .done⟩ :: history) entered ∧
        ∀ {α : Type} (block : Act Workspace α) {later : List Moment},
          Ran later (block.runOn entered).2 → Open handle later →
            ((editing handle block).runOn workspace).1 = (block.runOn entered).1 ∧
            Ran (⟨.leave handle, .ok .done⟩ :: later) ((editing handle block).runOn workspace).2
  /-- Outside of its blocks a tensor has the hash of a new one with the same dimensions and elements. -/
  fresh : ∀ {handle : Handle} {slot : Slot}, workspace.slots[handle]? = some slot →
    ¬ Open handle history → ∀ (dimensions : Item) (tensor : Tensor Datum),
      Shape.Agree tensor.shape slot.tensor.shape → tensor.toList = slot.tensor.toList →
        ((hash handle).runOn workspace).1 =
          ((do hash (← addWith dimensions tensor)).runOn workspace).1
  /-- Outside of its blocks a tensor has a hash where its elements have hashes and its dimensions fit into
  words. -/
  hashable : ∀ {handle : Handle} {slot : Slot}, workspace.slots[handle]? = some slot →
    ¬ Open handle history →
      ((∃ digest, ((hash handle).runOn workspace).1 = .ok digest) ↔
        (∀ dimension ∈ slot.tensor.shape, dimension.value < wordLimit) ∧
          ∀ element ∈ slot.tensor.toList, ∃ number, Hash.ofDatum element = .ok number)
  /-- Outside of their blocks equal tensors have the same hash, or neither has one.  An object that occurs in
  both of them has one value. -/
  equal : ∀ {left right : Handle} {first second : Slot}, workspace.slots[left]? = some first →
    workspace.slots[right]? = some second → ¬ Open left history → ¬ Open right history →
      Datum.Coherent first.tensor.toList second.tensor.toList →
        workspace.equalTensors left right = true →
          ((hash left).runOn workspace).1 = ((hash right).runOn workspace).1

section

variable {history : List Moment} {workspace : Workspace} {handle : Handle} {slot : Slot}

/-- While a block is open its tensor is being edited. -/
theorem Kept.isEdited (kept : Kept history workspace) (stored : workspace.slots[handle]? = some slot)
    (isOpen : Open handle history) : slot.isEdited = true :=
  (kept.fits stored).edited.2 isOpen

/-- Outside its blocks a tensor is not being edited. -/
theorem Kept.notEdited (kept : Kept history workspace) (stored : workspace.slots[handle]? = some slot)
    (notOpen : ¬ Open handle history) : slot.isEdited = false :=
  Bool.eq_false_iff.2 fun isEdited => notOpen ((kept.fits stored).edited.1 isEdited)

/-- Outside of blocks it does not show whether a hash was remembered. -/
theorem Kept.outcome_hash (kept : Kept history workspace)
    (stored : workspace.slots[handle]? = some slot) (notOpen : ¬ Open handle history) :
    ((hash handle).runOn workspace).1 = slot.tensor.hash := by
  have notEdited := kept.notEdited stored notOpen
  rw [runOn_hash stored]
  split
  · next digest isDigest => exact ((kept.fits stored).remembered notEdited digest isDigest).symm
  · next isHash => exact isHash.symm
  · next isHash => exact isHash.symm

/-- The hash of a tensor that has just come into a workspace. -/
theorem outcome_hash_addWith (workspace : Workspace) (dimensions : Item) (tensor : Tensor Datum) :
    ((do hash (← addWith dimensions tensor)).runOn workspace).1 = tensor.hash := by
  rcases runOn_addWith workspace dimensions tensor with ⟨later, site, place, added, isPushed⟩
  have stored : later.slots[workspace.slots.size]? =
      some { tensor := tensor.placed site, dimensions := place } := by
    rw [isPushed, Array.getElem?_push_size]
  rw [Act.runOn_bind_ok added, runOn_hash stored]
  cases isHash : (tensor.placed site).hash with
  | ok digest => exact isHash.symm.trans (tensor.hash_placed site)
  | error fault => exact isHash.symm.trans (tensor.hash_placed site)

end

/-- At any time in a run, the operations come to what the protocol says. -/
theorem editing_protocol {history : List Moment} {workspace : Workspace} (ran : Ran history workspace) :
    Protocol history workspace := by
  have kept := ran.kept
  constructor
  case replaced =>
    intro handle slot index given value stored isOpen within named
    have isEdited := kept.isEdited stored isOpen
    refine ⟨workspace.put handle { slot with tensor := slot.tensor.set index within value },
      slot.tensor.set index within value, ?_, slots_put_self stored _,
      slot.tensor.replaces_set within value, fun other apart => slots_put_ne apart _, rfl⟩
    rw [runOn_setElem stored, if_pos isEdited, Shape.locate_named within named]
  case misplaced =>
    intro handle slot given value stored isOpen unnamed
    rcases Shape.locate_unnamed unnamed with ⟨fault, isIndex, failed⟩
    refine ⟨fault, isIndex, ?_⟩
    rw [runOn_setElem stored, if_pos (kept.isEdited stored isOpen), failed]
  case frozen =>
    intro handle slot value index stored notOpen
    refine ⟨.notEditing, rfl, ?_⟩
    rw [runOn_setElem stored, if_neg]
    simp [kept.notEdited stored notOpen]
  case nested =>
    intro handle α block isOpen
    rcases kept.stored isOpen with ⟨slot, stored⟩
    have refused := runOn_acquire stored
    rw [if_pos (kept.isEdited stored isOpen)] at refused
    exact ⟨.alreadyEditing, rfl, by rw [editing, Act.runOn_bind_error refused]⟩
  case entered =>
    intro handle slot stored notOpen
    have acquired := runOn_acquire stored
    rw [if_neg (by simp [kept.notEdited stored notOpen])] at acquired
    refine ⟨_, acquired, ?_, ?_⟩
    · have called := Ran.called (.enter handle) ran fun _ isLeave => by cases isLeave
      rw [Call.run, Act.runOn_map, acquired] at called
      exact called
    · intro α block later reached stays
      rcases reached.kept.stored stays with ⟨last, isLast⟩
      have ended := Ran.called (.leave handle) reached fun other isLeave => by
        cases isLeave
        exact stays
      rw [Call.run, Act.runOn_map, runOn_release isLast] at ended
      rw [runOn_editing acquired block isLast, runOn_release isLast]
      exact ⟨rfl, ended⟩
  case fresh =>
    intro handle slot stored notOpen dimensions tensor agree same
    rw [kept.outcome_hash stored notOpen, outcome_hash_addWith]
    exact Tensor.hash_congr agree.symm (by rw [same])
  case hashable =>
    intro handle slot stored notOpen
    rw [kept.outcome_hash stored notOpen]
    exact Tensor.exists_hash_iff
  case equal =>
    intro left right first second isFirst isSecond leftNot rightNot coherent equal
    rw [kept.outcome_hash isFirst leftNot, kept.outcome_hash isSecond rightNot]
    simp only [equalTensors, isFirst, isSecond, Bool.or_eq_true, beq_iff_eq] at equal
    rcases equal with rfl | equal
    · rw [Option.some.inj (isFirst.symm.trans isSecond)]
    · exact Tensor.hash_eq_of_equal coherent equal

/-- Two ones, one of them a truth value, while another tensor is being edited. -/
theorem editing_protocol_block : ∃ (history : List Moment) (workspace : Workspace),
    Ran history workspace ∧ Open 0 history ∧
      (∃ after, (setElem 0 .null [.ofWhole (.truth false)]).runOn workspace = (.ok (), after)) ∧
      workspace.equalTensors 1 2 = true ∧
      ((hash 1).runOn workspace).1 = ((hash 2).runOn workspace).1 := by
  have ran := (((Ran.created.called (.create .nothing (.vector [.null])) nofun).called
    (.create .nothing (.vector [.int 1])) nofun).called
    (.create .nothing (.vector [.bool true])) nofun).called (.enter 0) nofun
  have protocol := editing_protocol ran
  refine ⟨_, _, ran, .inl rfl, ?_, rfl, ?_⟩
  · have replaced := @Protocol.replaced _ _ protocol 0 _ [0] [.truth false] .null rfl (.inl rfl)
      ⟨Nat.one_pos, trivial⟩ rfl
    rcases replaced with ⟨after, tensor, edited, _⟩
    exact ⟨after, edited⟩
  · refine protocol.equal rfl rfl ?_ ?_ ?_ rfl
    · exact fun isOpen => isOpen.elim nofun id
    · exact fun isOpen => isOpen.elim nofun id
    · intro site value other isValue
      change Datum.scalar (some site) value ∈ [Datum.int 1] at isValue
      simp at isValue

/-- Two tensors without elements of which one dimension does not fit into a word are equal, and do not have a
hash. -/
theorem equal_without_hash : ∃ (history : List Moment) (workspace : Workspace),
    Ran history workspace ∧ ¬ Open 0 history ∧ ¬ Open 1 history ∧
      workspace.equalTensors 0 1 = true ∧
      (∀ (handle : Handle) (slot : Slot), workspace.slots[handle]? = some slot →
        ∀ element ∈ slot.tensor.toList, ∃ number, Hash.ofDatum element = .ok number) ∧
      ∀ digest, ((hash 0).runOn workspace).1 ≠ .ok digest := by
  have ran := (Ran.created.called (.create .nothing (.constant [.number wordLimit, 0] .null)) nofun).called
    (.create .nothing (.constant [.number wordLimit, 0] .null)) nofun
  refine ⟨_, _, ran, id, id, rfl, ?_, nofun⟩
  intro handle slot stored element listed
  have bound : handle < 2 := (Array.getElem?_eq_some_iff.1 stored).1
  rcases Nat.le_one_iff_eq_zero_or_eq_one.1 (Nat.le_of_lt_succ bound) with rfl | rfl
  · cases stored
    cases listed
  · cases stored
    cases listed

end Workspace

end TensorLogic
