/-
Module: TensorLogic.Proofs.Expr.Reading
Purpose: Values of a kind whose elements are replaced by what they stand for.
Main exports: Value.read, Environment.read, Kind.Contains, Kind.Contains.relates, Kind.Relates.eq_read,
  Kind.Relates.contains
-/
import TensorLogic.Proofs.Expr.Correspondence

namespace TensorLogic

variable {β γ : Type}

namespace Value

mutual

/-- A value in which each element of an algebra is replaced by what it stands for. -/
def read (meaning : β → Value γ) : Value β → Value γ
  | scalar mark value => scalar mark value
  | list mark items => list mark (readAll meaning items)
  | tensor mark shape elems => tensor mark shape (readAll meaning elems)
  | elem element => meaning element

/-- Values in which each element of an algebra is replaced. -/
def readAll (meaning : β → Value γ) : List (Value β) → List (Value γ)
  | [] => []
  | value :: values => read meaning value :: readAll meaning values

end

variable (meaning : β → Value γ)

theorem readAll_eq_map (values : List (Value β)) :
    readAll meaning values = values.map (read meaning) := by
  induction values with
  | nil => rfl
  | cons value values hypothesis => rw [readAll, hypothesis, List.map_cons]

mutual

/-- There is nothing to be replaced in a datum. -/
theorem read_ofDatum (datum : Datum) : (ofDatum datum).read meaning = ofDatum datum := by
  match datum with
  | .scalar mark value => rfl
  | .list mark items => rw [ofDatum, read, readAll_ofData items, ofDatum]

theorem readAll_ofData (data : List Datum) : readAll meaning (ofData data) = ofData data := by
  match data with
  | [] => rfl
  | datum :: data => rw [ofData, readAll, read_ofDatum datum, readAll_ofData data, ofData]

end

end Value

/-- The values that names stand for, with each element replaced. -/
def Environment.read (meaning : β → Value γ) (environment : Environment β) : Environment γ :=
  environment.map fun (name, value) => (name, value.read meaning)

theorem Environment.lookup_read (meaning : β → Value γ) (environment : Environment β)
    (name : String) :
    (environment.read meaning).lookup name = (environment.lookup name).map (Value.read meaning) := by
  induction environment with
  | nil => rfl
  | cons binding environment hypothesis =>
      obtain ⟨bound, value⟩ := binding
      rw [read, List.map_cons, List.lookup_cons, List.lookup_cons]
      cases name == bound with
      | true => rfl
      | false => exact hypothesis

namespace Kind

/-- A value of a kind, all elements in which have a property. -/
def Contains (Element : Value β → Prop) : Kind → Value β → Prop
  | elem => Element
  | plain => fun value => ∃ datum : Datum, value = .ofDatum datum
  | list member => fun value => ∃ mark items, value = .list mark items ∧
      ∀ item ∈ items, member.Contains Element item
  | tensor member => fun value => ∃ mark shape elems, value = .tensor mark shape elems ∧
      ∀ item ∈ elems, member.Contains Element item

variable {Element : Value β → Prop} {Relation : Value β → Value γ → Prop} {kind : Kind}

theorem forall₂_readAll {Member : Value β → Value γ → Prop} {meaning : β → Value γ}
    {values : List (Value β)} (each : ∀ value ∈ values, Member value (value.read meaning)) :
    List.Forall₂ Member values (Value.readAll meaning values) := by
  induction values with
  | nil => exact .nil
  | cons value values hypothesis =>
      exact .cons (each value List.mem_cons_self)
        (hypothesis fun other inside => each other (List.mem_cons_of_mem _ inside))

theorem Contains.mono {Weaker : Value β → Prop} {value : Value β}
    (contains : kind.Contains Element value)
    (weaker : ∀ element, Element element → Weaker element) : kind.Contains Weaker value := by
  induction kind generalizing value with
  | elem => exact weaker value contains
  | plain => exact contains
  | list member hypothesis =>
      obtain ⟨mark, items, rfl, each⟩ := contains
      exact ⟨mark, items, rfl, fun item inside => hypothesis (each item inside)⟩
  | tensor member hypothesis =>
      obtain ⟨mark, shape, elems, rfl, each⟩ := contains
      exact ⟨mark, shape, elems, rfl, fun item inside => hypothesis (each item inside)⟩

/-- A value is related to what it is read as if its elements are. -/
theorem Contains.relates {meaning : β → Value γ} {value : Value β}
    (contains : kind.Contains Element value)
    (related : ∀ element, Element element → Relation element (element.read meaning)) :
    kind.Relates Relation value (value.read meaning) := by
  induction kind generalizing value with
  | elem => exact related value contains
  | plain =>
      obtain ⟨datum, rfl⟩ := contains
      exact ⟨datum, rfl, Value.read_ofDatum meaning datum⟩
  | list member hypothesis =>
      obtain ⟨mark, items, rfl, each⟩ := contains
      exact ⟨mark, items, _, rfl, rfl, forall₂_readAll fun item inside =>
        hypothesis (each item inside)⟩
  | tensor member hypothesis =>
      obtain ⟨mark, shape, elems, rfl, each⟩ := contains
      exact ⟨mark, shape, elems, _, rfl, rfl, forall₂_readAll fun item inside =>
        hypothesis (each item inside)⟩

theorem forall_of_forall₂ {Member : Value β → Value γ → Prop} {Property : Value β → Prop}
    {lefts : List (Value β)} {rights : List (Value γ)} (members : List.Forall₂ Member lefts rights)
    (each : ∀ first second, Member first second → Property first) :
    ∀ first ∈ lefts, Property first := by
  induction members with
  | nil => exact fun _ inside => nomatch inside
  | cons head _ hypothesis =>
      intro first inside
      rcases List.mem_cons.1 inside with rfl | later
      · exact each _ _ head
      · exact hypothesis first later

/-- A value that is related to another has only elements that are. -/
theorem Relates.contains {left : Value β} {right : Value γ}
    (related : kind.Relates Relation left right)
    (contained : ∀ first second, Relation first second → Element first) :
    kind.Contains Element left := by
  induction kind generalizing left right with
  | elem => exact contained left right related
  | plain =>
      obtain ⟨datum, rfl, _⟩ := related
      exact ⟨datum, rfl⟩
  | list member hypothesis =>
      obtain ⟨mark, lefts, rights, rfl, rfl, members⟩ := related
      exact ⟨mark, lefts, rfl, forall_of_forall₂ members fun _ _ => hypothesis⟩
  | tensor member hypothesis =>
      obtain ⟨mark, shape, lefts, rights, rfl, rfl, members⟩ := related
      exact ⟨mark, shape, lefts, rfl, forall_of_forall₂ members fun _ _ => hypothesis⟩

theorem eq_readAll_of_forall₂ {Member : Value β → Value γ → Prop} {meaning : β → Value γ}
    {lefts : List (Value β)} {rights : List (Value γ)} (members : List.Forall₂ Member lefts rights)
    (each : ∀ first second, Member first second → second = first.read meaning) :
    rights = Value.readAll meaning lefts := by
  induction members with
  | nil => rfl
  | cons head _ hypothesis => rw [Value.readAll, each _ _ head, hypothesis]

/-- A value whose elements are related only to what they are read as is related only to what it is read
as. -/
theorem Relates.eq_read {meaning : β → Value γ} {left : Value β} {right : Value γ}
    (related : kind.Relates Relation left right)
    (only : ∀ first second, Relation first second → second = first.read meaning) :
    right = left.read meaning := by
  induction kind generalizing left right with
  | elem => exact only left right related
  | plain =>
      obtain ⟨datum, rfl, rfl⟩ := related
      exact (Value.read_ofDatum meaning datum).symm
  | list member hypothesis =>
      obtain ⟨mark, lefts, rights, rfl, rfl, members⟩ := related
      rw [Value.read, eq_readAll_of_forall₂ members fun _ _ => hypothesis]
  | tensor member hypothesis =>
      obtain ⟨mark, shape, lefts, rights, rfl, rfl, members⟩ := related
      rw [Value.read, eq_readAll_of_forall₂ members fun _ _ => hypothesis]

end Kind

end TensorLogic
