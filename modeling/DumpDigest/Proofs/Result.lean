import Mathlib.Data.List.Forall2
import Mathlib.Data.List.Perm.Basic

/-!
# Results of steps that may fail

When steps in sequence succeed and when they fail.  `mapM_eq_ok_iff` and `mapM_eq_error_iff` say it
for a step done on every item of a list: all succeed, or the first that fails decides.

Which item fails first depends on their order, so what is computed from the same items in another
order may fail in another way.  `SucceedAlike` leaves that out: it asks for the same results only.
`alike_of_perm` is how it comes about, and the other lemmas carry it through later steps.
-/

universe u v w

namespace DumpDigest.Result

variable {ε : Type u} {δ : Type w} {α β γ : Type v}

theorem bind_eq_ok_iff {first : Except ε α} {next : α → Except ε β} {result : β} :
    first >>= next = .ok result ↔ ∃ value, first = .ok value ∧ next value = .ok result := by
  cases first with
  | ok value => simp [bind, Except.bind]
  | error error => simp [bind, Except.bind]

theorem bind_eq_error_iff {first : Except ε α} {next : α → Except ε β} {error : ε} :
    first >>= next = .error error ↔
      first = .error error ∨ ∃ value, first = .ok value ∧ next value = .error error := by
  cases first with
  | ok value => simp [bind, Except.bind]
  | error other => simp [bind, Except.bind]

theorem map_eq_ok_iff {change : α → β} {first : Except ε α} {result : β} :
    change <$> first = .ok result ↔ ∃ value, first = .ok value ∧ change value = result := by
  cases first with
  | ok value => simp [Functor.map, Except.map]
  | error error => simp [Functor.map, Except.map]

theorem exists_map_eq_ok_iff {change : α → β} {first : Except ε α} :
    (∃ result, change <$> first = .ok result) ↔ ∃ value, first = .ok value := by
  cases first with
  | ok value => simp [Functor.map, Except.map]
  | error error => simp [Functor.map, Except.map]

theorem map_eq_error_iff {change : α → β} {first : Except ε α} {error : ε} :
    change <$> first = .error error ↔ first = .error error := by
  cases first with
  | ok value => simp [Functor.map, Except.map]
  | error other => simp [Functor.map, Except.map]

theorem toOption_eq_some_iff {attempt : Except ε α} {result : α} :
    attempt.toOption = some result ↔ attempt = .ok result := by
  cases attempt <;> simp [Except.toOption]

theorem mapError_eq_ok_iff {change : ε → δ} {first : Except ε α} {result : α} :
    first.mapError change = .ok result ↔ first = .ok result := by
  cases first with
  | ok value => simp [Except.mapError]
  | error error => simp [Except.mapError]

theorem mapError_eq_error_iff {change : ε → δ} {first : Except ε α} {error : δ} :
    first.mapError change = .error error ↔
      ∃ cause, first = .error cause ∧ change cause = error := by
  cases first with
  | ok value => simp [Except.mapError]
  | error cause => simp [Except.mapError]

theorem mapM_eq_ok_iff {step : α → Except ε β} {items : List α} {results : List β} :
    items.mapM step = .ok results ↔
      List.Forall₂ (fun item result => step item = .ok result) items results := by
  induction items generalizing results with
  | nil =>
    rw [List.mapM_nil, List.forall₂_nil_left_iff]
    exact ⟨fun h => (Except.ok.inj h).symm, fun h => h ▸ rfl⟩
  | cons item items ih =>
    rw [List.mapM_cons, bind_eq_ok_iff, List.forall₂_cons_left_iff]
    constructor
    · rintro ⟨result, here, rest⟩
      obtain ⟨others, there, done⟩ := bind_eq_ok_iff.mp rest
      exact ⟨result, others, here, ih.mp there, (Except.ok.inj done).symm⟩
    · rintro ⟨result, others, here, there, rfl⟩
      exact ⟨result, here, bind_eq_ok_iff.mpr ⟨others, ih.mpr there, rfl⟩⟩

/-- A step done on all items fails as it fails on the first item on which it does. -/
theorem mapM_eq_error_iff {step : α → Except ε β} {items : List α} {error : ε} :
    items.mapM step = .error error ↔
      ∃ before item after, items = before ++ item :: after ∧
        (∀ earlier ∈ before, ∃ result, step earlier = .ok result) ∧ step item = .error error := by
  induction items with
  | nil =>
    constructor
    · intro h
      cases h
    · rintro ⟨before, item, after, split, -, -⟩
      exact absurd split (by simp)
  | cons item items ih =>
    rw [List.mapM_cons, bind_eq_error_iff]
    constructor
    · rintro (here | ⟨result, here, rest⟩)
      · exact ⟨[], item, items, rfl, fun _ h => absurd h (by simp), here⟩
      · obtain there | ⟨_, _, done⟩ := bind_eq_error_iff.mp rest
        · obtain ⟨before, bad, after, rfl, fine, fails⟩ := ih.mp there
          refine ⟨item :: before, bad, after, rfl, ?_, fails⟩
          intro earlier he
          rcases List.mem_cons.mp he with rfl | he
          · exact ⟨result, here⟩
          · exact fine earlier he
        · cases done
    · rintro ⟨before, bad, after, split, fine, fails⟩
      cases before with
      | nil =>
        obtain ⟨rfl, rfl⟩ := List.cons.inj split
        exact .inl fails
      | cons first before =>
        obtain ⟨rfl, rfl⟩ := List.cons.inj split
        obtain ⟨result, here⟩ := fine item List.mem_cons_self
        refine .inr ⟨result, here, bind_eq_error_iff.mpr (.inl (ih.mpr ?_))⟩
        exact ⟨before, bad, after, rfl, fun e he => fine e (List.mem_cons_of_mem _ he), fails⟩

theorem exists_mapM_eq_ok_iff {step : α → Except ε β} {items : List α} :
    (∃ results, items.mapM step = .ok results) ↔
      ∀ item ∈ items, ∃ result, step item = .ok result := by
  induction items with
  | nil => exact ⟨fun _ item member => absurd member (by simp), fun _ => ⟨[], rfl⟩⟩
  | cons item items ih =>
    rw [List.forall_mem_cons, ← ih]
    simp only [mapM_eq_ok_iff, List.forall₂_cons_left_iff]
    constructor
    · rintro ⟨_, result, results, here, there, rfl⟩
      exact ⟨⟨result, here⟩, results, there⟩
    · rintro ⟨⟨result, here⟩, results, there⟩
      exact ⟨_, result, results, here, there, rfl⟩

theorem mem_mapM_iff {step : α → Except ε β} {items : List α} {results : List β}
    (done : items.mapM step = .ok results) {result : β} :
    result ∈ results ↔ ∃ item ∈ items, step item = .ok result := by
  have each := mapM_eq_ok_iff.mp done
  clear done
  induction each with
  | nil => simp
  | @cons item first items results here _ ih =>
    have same : step item = .ok result ↔ result = first := by
      rw [here, Except.ok.injEq, eq_comm]
    simp only [List.mem_cons, exists_eq_or_imp, ih, same]

theorem length_of_mapM {step : α → Except ε β} {items : List α} {results : List β}
    (done : items.mapM step = .ok results) : results.length = items.length :=
  (mapM_eq_ok_iff.mp done).length_eq.symm

theorem getElem?_of_mapM {step : α → Except ε β} {items : List α} {results : List β}
    (done : items.mapM step = .ok results) (i : Nat) :
    results[i]? = items[i]?.bind fun item => (step item).toOption := by
  have each := mapM_eq_ok_iff.mp done
  clear done
  induction each generalizing i with
  | nil => rfl
  | cons here _ ih =>
    cases i with
    | zero => simp [here, Except.toOption]
    | succ i => simpa using ih i

theorem map_eq_map_of_mapM {step : α → Except ε β} {items : List α} {results : List β}
    {read : α → γ} {label : β → γ} (done : items.mapM step = .ok results)
    (taken : ∀ item result, step item = .ok result → read item = label result) :
    items.map read = results.map label := by
  rw [← List.forall₂_eq_eq_eq, List.forall₂_map_left_iff, List.forall₂_map_right_iff]
  exact (mapM_eq_ok_iff.mp done).imp taken

/-- A step that keeps the item beside its result, done on all items. -/
theorem mapM_paired {step : α → Except ε β} {items : List α} :
    (items.mapM fun item => (item, ·) <$> step item) = items.zip <$> items.mapM step := by
  induction items with
  | nil => rfl
  | cons item items ih =>
    rw [List.mapM_cons, List.mapM_cons, ih]
    cases step item with
    | error error => rfl
    | ok result =>
      cases items.mapM step with
      | error error => rfl
      | ok results => rfl

/-- **A sum over what is read of items** is the sum of what is read of all of them. -/
theorem foldlM_eq_map_mapM {add : γ → β → γ} {read : α → Except ε β} {items : List α} {start : γ} :
    items.foldlM (fun sum item => add sum <$> read item) start =
      List.foldl add start <$> items.mapM read := by
  induction items generalizing start with
  | nil => rfl
  | cons item items ih =>
    rw [List.foldlM_cons, List.mapM_cons]
    cases read item with
    | error error => rfl
    | ok result =>
      refine Eq.trans ih ?_
      cases items.mapM read with
      | error error => rfl
      | ok results => rfl

theorem mapM_congr {first second : α → Except ε β} {items : List α}
    (agree : ∀ item ∈ items, first item = second item) : items.mapM first = items.mapM second := by
  induction items with
  | nil => rfl
  | cons item items ih =>
    obtain ⟨here, there⟩ := List.forall_mem_cons.mp agree
    rw [List.mapM_cons, List.mapM_cons, here, ih there]

/-- A partial step that undoes a total one, done on all items, undoes it on the whole list. -/
theorem mapM_eq_some_iff {γ : Type u} {δ : Type v} {undo : γ → Option δ} {make : δ → γ}
    (inverse : ∀ item result, undo item = some result ↔ item = make result) {items : List γ}
    {results : List δ} : items.mapM undo = some results ↔ items = results.map make := by
  induction items generalizing results with
  | nil => cases results <;> simp
  | cons item items ih =>
    rw [List.mapM_cons, Option.bind_eq_bind, Option.bind_eq_some_iff]
    constructor
    · rintro ⟨result, here, rest⟩
      obtain ⟨others, there, done⟩ := Option.bind_eq_some_iff.mp rest
      obtain rfl := Option.some.inj done
      rw [(inverse item result).mp here, ih.mp there, List.map_cons]
    · intro made
      cases results with
      | nil => cases made
      | cons result results =>
        obtain ⟨rfl, rfl⟩ := List.cons.inj made
        refine ⟨result, (inverse _ result).mpr rfl, ?_⟩
        exact Option.bind_eq_some_iff.mpr ⟨results, ih.mpr rfl, rfl⟩

/-! ### Steps that succeed alike -/

/-- Whether two attempts succeed alike: if one of them succeeds, so does the other one, and with the
same result. -/
def SucceedAlike (first second : Except ε α) : Prop :=
  ∀ result, first = .ok result ↔ second = .ok result

namespace SucceedAlike

theorem refl (attempt : Except ε α) : SucceedAlike attempt attempt :=
  fun _ => Iff.rfl

theorem bind {first second : Except ε α} {next next' : α → Except ε β}
    (alike : SucceedAlike first second)
    (alike' : ∀ value, SucceedAlike (next value) (next' value)) :
    SucceedAlike (first >>= next) (second >>= next') := by
  intro result
  rw [bind_eq_ok_iff, bind_eq_ok_iff]
  exact exists_congr fun value => and_congr (alike value) (alike' value result)

theorem mapError {change : ε → δ} {first second : Except ε α} (alike : SucceedAlike first second) :
    SucceedAlike (first.mapError change) (second.mapError change) := by
  intro result
  rw [mapError_eq_ok_iff, mapError_eq_ok_iff]
  exact alike result

theorem mapM {step step' : α → Except ε β} {items : List α}
    (alike : ∀ item ∈ items, SucceedAlike (step item) (step' item)) :
    SucceedAlike (items.mapM step) (items.mapM step') := by
  induction items with
  | nil => exact refl _
  | cons item items ih =>
    obtain ⟨here, there⟩ := List.forall_mem_cons.mp alike
    rw [List.mapM_cons, List.mapM_cons]
    exact here.bind fun _ => (ih there).bind fun _ => refl _

end SucceedAlike

/-- What a step gives on the items on which it succeeds. -/
def successes (step : α → Except ε β) (items : List α) : List β :=
  items.filterMap fun item => (step item).toOption

theorem successes_perm {step : α → Except ε β} {items others : List α} (perm : items.Perm others) :
    (successes step items).Perm (successes step others) :=
  perm.filterMap _

theorem successes_of_mapM {step : α → Except ε β} {items : List α} {results : List β}
    (done : items.mapM step = .ok results) : successes step items = results := by
  have each := mapM_eq_ok_iff.mp done
  clear done
  induction each with
  | nil => rfl
  | @cons item result items results here _ ih =>
    rw [successes, List.filterMap_cons, here]
    exact congrArg (result :: ·) ih

/-- **A step done on all items in another order**, and what is made of the results, succeed alike,
if the same is made of the results in both orders. -/
theorem alike_of_perm {step : α → Except ε β} {make : List β → γ} {items others : List α}
    (perm : items.Perm others) (same : make (successes step items) = make (successes step others)) :
    SucceedAlike (make <$> items.mapM step) (make <$> others.mapM step) := by
  have all : (∃ results, items.mapM step = .ok results) ↔
      ∃ results, others.mapM step = .ok results := by
    simp only [exists_mapM_eq_ok_iff, perm.mem_iff]
  intro result
  rw [map_eq_ok_iff, map_eq_ok_iff]
  constructor
  · rintro ⟨results, done, rfl⟩
    obtain ⟨results', done'⟩ := all.mp ⟨results, done⟩
    rw [successes_of_mapM done, successes_of_mapM done'] at same
    exact ⟨results', done', same.symm⟩
  · rintro ⟨results', done', rfl⟩
    obtain ⟨results, done⟩ := all.mpr ⟨results', done'⟩
    rw [successes_of_mapM done, successes_of_mapM done'] at same
    exact ⟨results, done, same⟩

end DumpDigest.Result
