import Mathlib.Data.List.Forall2
import Mathlib.Logic.Function.Basic

/-!
# `Agentype.Lib.Check` — validations that stop at the first error

A validation is a computation in `Except`: a chain of conditions, each with the error it reports,
and loops over lists of such conditions. What a validation *means* is when it succeeds; the lemmas
here turn its success into the conjunction of its conditions, so that the predicates built on top
are reasoned about without unfolding `bind`.

## Contents
- `ensure`, `present`: a condition and an optional value with the error that replaces them.
- `bind_ok`, `seq_ok`, `forM_ok`, `mapM_ok`: when a composite validation succeeds.
- `isOk`: success as a Boolean.
- `parseSpelling`: the member of a closed enumeration with a given spelling.
-/

namespace Check

variable {ε α β : Type}

/-- `if !condition { return Err(error) }`. -/
def ensure (condition : Bool) (error : ε) : Except ε Unit :=
  if condition then .ok () else .error error

/-- `value.ok_or_else(|| error)`. -/
def present (value : Option α) (error : ε) : Except ε α :=
  match value with
  | some a => .ok a
  | none => .error error

/-- Whether a computation returned. -/
def isOk : Except ε α → Bool
  | .ok _ => true
  | .error _ => false

@[simp] theorem ensure_ok {b : Bool} {e : ε} {u : Unit} : ensure b e = .ok u ↔ b = true := by
  cases b <;> simp [ensure]

@[simp] theorem present_ok {o : Option α} {e : ε} {a : α} : present o e = .ok a ↔ o = some a := by
  cases o <;> simp [present]

@[simp] theorem ensure_true (e : ε) : ensure true e = .ok () := rfl

@[simp] theorem present_some (a : α) (e : ε) : present (some a) e = .ok a := rfl

@[simp] theorem bind_ok {x : Except ε α} {f : α → Except ε β} {b : β} :
    (x >>= f) = .ok b ↔ ∃ a, x = .ok a ∧ f a = .ok b := by
  cases x with
  | ok a => simp [bind, Except.bind]
  | error e => simp [bind, Except.bind]

/-- A check before a computation. -/
theorem seq_ok {x : Except ε PUnit} {f : PUnit → Except ε β} {b : β} :
    (x >>= f) = .ok b ↔ x = .ok () ∧ f () = .ok b := by
  rw [bind_ok]
  exact ⟨fun ⟨_, hx, hf⟩ => ⟨hx, hf⟩, fun h => ⟨_, h⟩⟩

@[simp] theorem pure_ok {a b : α} : (pure a : Except ε α) = .ok b ↔ a = b := by
  simp [pure, Except.pure]

@[simp] theorem throw_ok {e : ε} {a : α} : (throw e : Except ε α) = .ok a ↔ False := by
  simp [throw, throwThe, MonadExceptOf.throw]

@[simp] theorem map_ok {x : Except ε α} {f : α → β} {b : β} :
    (f <$> x) = .ok b ↔ ∃ a, x = .ok a ∧ f a = b := by
  cases x <;> simp [Functor.map, Except.map]

/-- A loop of checks passes exactly when every check does. -/
theorem forM_ok {f : α → Except ε PUnit} {l : List α} {u : PUnit} :
    l.forM f = .ok u ↔ ∀ a ∈ l, f a = .ok () := by
  induction l with
  | nil => simp [List.forM]
  | cons a l ih =>
    show (f a >>= fun _ => l.forM f) = _ ↔ _
    rw [seq_ok, List.forall_mem_cons, ← ih]

/-- A collecting loop returns the list of what its steps return. -/
theorem mapM_ok {f : α → Except ε β} {l : List α} {out : List β} :
    l.mapM f = .ok out ↔ List.Forall₂ (fun a b => f a = .ok b) l out := by
  induction l generalizing out with
  | nil =>
    rw [List.forall₂_nil_left_iff, List.mapM_nil, pure_ok, eq_comm]
  | cons a l ih =>
    rw [List.forall₂_cons_left_iff]
    simp only [List.mapM_cons, bind_ok, pure_ok, ih]
    constructor
    · rintro ⟨b, hb, bs, hbs, rfl⟩
      exact ⟨b, bs, hb, hbs, rfl⟩
    · rintro ⟨b, bs, hb, hbs, rfl⟩
      exact ⟨b, hb, bs, hbs, rfl⟩

/-- What a collecting loop returns comes from one of its steps. -/
theorem mem_of_mapM_ok {f : α → Except ε β} {l : List α} {out : List β} (h : l.mapM f = .ok out)
    {b : β} (hb : b ∈ out) : ∃ a ∈ l, f a = .ok b := by
  rw [mapM_ok] at h
  induction h with
  | nil => cases hb
  | cons hab _ ih =>
    rcases List.mem_cons.mp hb with rfl | hb
    · exact ⟨_, .head _, hab⟩
    · obtain ⟨a, ha, hf⟩ := ih hb
      exact ⟨a, .tail _ ha, hf⟩

theorem exists_of_mapM_ok {f : α → Except ε β} {l : List α} {out : List β} (h : l.mapM f = .ok out)
    {a : α} (ha : a ∈ l) : ∃ b ∈ out, f a = .ok b := by
  rw [mapM_ok] at h
  induction h with
  | nil => cases ha
  | cons hab _ ih =>
    rcases List.mem_cons.mp ha with rfl | ha
    · exact ⟨_, .head _, hab⟩
    · obtain ⟨b, hb, hf⟩ := ih ha
      exact ⟨b, .tail _ hb, hf⟩

theorem isOk_iff {x : Except ε α} : isOk x = true ↔ ∃ a, x = .ok a := by
  cases x <;> simp [isOk]

theorem isOk_unit {x : Except ε Unit} : isOk x = true ↔ x = .ok () := by
  cases x <;> simp [isOk]

@[simp] theorem ok_bind (a : α) (f : α → Except ε β) : ((.ok a : Except ε α) >>= f) = f a := rfl

@[simp] theorem mapError_ok {δ : Type} {x : Except ε α} {f : ε → δ} {a : α} :
    x.mapError f = .ok a ↔ x = .ok a := by
  cases x <;> simp [Except.mapError]

@[simp] theorem mapError_of_ok {δ : Type} (a : α) (f : ε → δ) :
    (.ok a : Except ε α).mapError f = .ok a := rfl

/-! ## Closed enumerations -/

/-- The member of an enumeration spelled `text`; `what` names the enumeration in the error. -/
def parseSpelling (what : String) (members : List α) (spell : α → String) (text : String) :
    Except String α :=
  present (members.find? fun a => decide (spell a = text)) ("unknown " ++ what ++ " " ++ text)

theorem spell_of_parse {what : String} {members : List α} {spell : α → String} {text : String}
    {a : α} (h : parseSpelling what members spell text = .ok a) : spell a = text := by
  rw [parseSpelling, present_ok] at h
  simpa using List.find?_some h

/-- An enumeration with distinct spellings is parsed back. -/
theorem parse_spell {what : String} {members : List α} {spell : α → String}
    (hall : ∀ a, a ∈ members) (hspell : Function.Injective spell) (a : α) :
    parseSpelling what members spell (spell a) = .ok a := by
  rw [parseSpelling, present_ok]
  cases hf : members.find? fun b => decide (spell b = spell a) with
  | none =>
    have hne := List.find?_eq_none.mp hf a (hall a)
    simp at hne
  | some b =>
    have hb : spell b = spell a := by simpa using List.find?_some hf
    rw [hspell hb]

end Check
