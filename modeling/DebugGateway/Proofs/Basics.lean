namespace DebugGateway

theorem bind_eq_ok {ε α β : Type} {x : Except ε α} {f : α → Except ε β} {b : β}
    (bound : x >>= f = .ok b) : ∃ a, x = .ok a ∧ f a = .ok b := by
  cases x with
  | error e => cases bound
  | ok a => exact ⟨a, rfl, bound⟩

theorem map_eq_ok {ε α β : Type} {x : Except ε α} {f : α → β} {b : β}
    (mapped : x.map f = .ok b) : ∃ a, x = .ok a ∧ f a = b := by
  cases x with
  | error e => cases mapped
  | ok a => exact ⟨a, rfl, Except.ok.inj mapped⟩

theorem mapError_eq_ok {ε ε' α : Type} {x : Except ε α} {f : ε → ε'} {a : α}
    (mapped : x.mapError f = .ok a) : x = .ok a := by
  cases x with
  | error e => cases mapped
  | ok b => exact congrArg _ (Except.ok.inj mapped)

theorem foldlM_keeps {ε σ α : Type} {P : σ → Prop} {step : σ → α → Except ε σ} {items : List α}
    (keeps : ∀ s a s', P s → step s a = .ok s' → P s') {start last : σ} (holds : P start)
    (folded : items.foldlM step start = .ok last) : P last := by
  induction items generalizing start with
  | nil =>
    cases folded
    exact holds
  | cons a items ih =>
    rw [List.foldlM_cons] at folded
    obtain ⟨next, here, later⟩ := bind_eq_ok folded
    exact ih (keeps start a next holds here) later

theorem foldlM_kept {σ α : Type} {P : σ → Prop} {step : σ → α → Option σ} {items : List α}
    {start last : σ} (folded : items.foldlM step start = some last)
    (keeps : ∀ s, ∀ a ∈ items, ∀ s', P s → step s a = some s' → P s') (holds : P start) : P last := by
  induction items generalizing start with
  | nil =>
    cases folded
    exact holds
  | cons a items ih =>
    simp only [List.foldlM_cons, Option.bind_eq_bind, Option.bind_eq_some_iff] at folded
    obtain ⟨next, here, later⟩ := folded
    apply ih later
    · exact fun s b member => keeps s b (.tail _ member)
    · exact keeps start a (.head _) next holds here

theorem mapM_isSome {α β : Type} {f : α → Option β} {items : List α} {results : List β}
    (mapped : items.mapM f = some results) : ∀ item ∈ items, (f item).isSome := by
  induction items generalizing results with
  | nil => simp
  | cons first items ih =>
    rw [List.mapM_cons] at mapped
    obtain ⟨result, here, mapped⟩ := Option.bind_eq_some_iff.mp mapped
    obtain ⟨others, later, -⟩ := Option.bind_eq_some_iff.mp mapped
    intro item member
    rcases List.mem_cons.mp member with rfl | member
    · simp [here]
    · exact ih later item member

theorem countP_set_toNat {α : Type} {l : List α} {i : Nat} {x y : α} (p : α → Bool)
    (found : l[i]? = some x) :
    (l.set i y).countP p + (p x).toNat = l.countP p + (p y).toNat := by
  obtain ⟨inside, rfl⟩ := List.getElem?_eq_some_iff.mp found
  rw [List.countP_set inside]
  cases hx : p l[i] with
  | false => cases p y <;> simp
  | true =>
    have counted : 0 < l.countP p := List.countP_pos_iff.mpr ⟨l[i], List.getElem_mem inside, hx⟩
    cases p y <;> simp <;> omega

theorem modify_eq_set_of_getElem? {α : Type} {l : List α} {i : Nat} {x : α} (change : α → α)
    (found : l[i]? = some x) : l.modify i change = l.set i (change x) := by
  obtain ⟨inside, rfl⟩ := List.getElem?_eq_some_iff.mp found
  apply List.ext_getElem?
  intro j
  by_cases here : i = j
  · subst here
    simp [inside]
  · simp [here]

theorem countP_modify_toNat {α : Type} {l : List α} {i : Nat} {x : α} (p : α → Bool) (change : α → α)
    (found : l[i]? = some x) :
    (l.modify i change).countP p + (p x).toNat = l.countP p + (p (change x)).toNat := by
  rw [modify_eq_set_of_getElem? change found]
  exact countP_set_toNat p found

theorem countP_modify_same {α : Type} {p : α → Bool} {change : α → α}
    (same : ∀ a, p (change a) = p a) (l : List α) (i : Nat) :
    (l.modify i change).countP p = l.countP p := by
  cases found : l[i]? with
  | none => rw [List.modify_eq_self (List.getElem?_eq_none_iff.mp found)]
  | some x =>
    have counted := countP_modify_toNat p change found
    rw [same] at counted
    exact Nat.add_right_cancel counted

end DebugGateway
