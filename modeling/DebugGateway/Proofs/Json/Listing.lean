import DebugGateway.Proofs.Json.Readings
import DebugGateway.Proofs.Json.Records

namespace DebugGateway.Json

open Value

variable {text rest : List Char}

/-! ## Lists -/

section Lists

variable {α : Type} {item : List Char → Read α}

/-- The elements of a list from here on, and the text behind its closing bracket. -/
inductive Lists (item : List Char → Read α) : Bool → List Char → List α → List Char → Prop where
  | done {first : Bool} {text rest : List Char} (stepped : nextItem first text = .ok (.done rest)) :
    Lists item first text [] rest
  | item {first : Bool} {text here left rest : List Char} {a : α} {items : List α}
    (stepped : nextItem first text = .ok (.item here)) (taken : item here = .ok (a, left))
    (others : Lists item false left items rest) : Lists item first text (a :: items) rest

/-- The bound on the number of elements is not met by a reader that uses up its text. -/
theorem readItems_iff {P : α → Prop} (yields : Yields P item) {bound : Nat} {seen out : List α}
    (enough : text.length < bound) : readItems item bound seen text = .ok (out, rest) ↔
      ∃ items, out = seen.reverse ++ items ∧ Lists item seen.isEmpty text items rest := by
  induction bound generalizing seen text with
  | zero => exact absurd enough (Nat.not_lt_zero _)
  | succ bound ih =>
    -- an element takes at least one character, so the text falls with the bound
    have shorter {here left : List Char} {a : α}
        (stepped : nextItem seen.isEmpty text = .ok (.item here))
        (taken : item here = .ok (a, left)) : left.length < bound := by
      have step := nextItem_length stepped
      have used := (yields _ _ _ taken).2
      dsimp only at step
      omega
    rw [readItems]
    constructor
    · intro read
      obtain ⟨next, stepped, read⟩ := bind_eq_ok read
      cases next with
      | done rest =>
        cases read
        exact ⟨[], (List.append_nil _).symm, .done stepped⟩
      | item here =>
        obtain ⟨⟨a, left⟩, taken, read⟩ := bind_eq_ok read
        obtain ⟨items, rfl, others⟩ := (ih (shorter stepped taken)).mp read
        exact ⟨a :: items, by simp, .item stepped taken others⟩
    · rintro ⟨items, rfl, lists⟩
      cases lists with
      | done stepped =>
        rw [stepped, List.append_nil]
        rfl
      | @item _ _ here left _ a items stepped taken others =>
        have out : seen.reverse ++ a :: items = (a :: seen).reverse ++ items := by simp
        have read := (ih (shorter stepped taken)).mpr ⟨items, out, others⟩
        simp only [stepped, bind, Except.bind, taken, read]

theorem readValue_list_iff {levels : Nat} {items : List Value} :
    readValue (levels + 1) text = .ok (.list items, rest) ↔
      ∃ more, skipGap text = '[' :: more ∧ Lists (readValue levels) true more items rest := by
  have elements (more : List Char) :
      readItems (readValue levels) (more.length + 1) [] more = .ok (items, rest) ↔
        Lists (readValue levels) true more items rest := by
    rw [readItems_iff (readValue_yields levels) (Nat.lt_succ_self _)]
    exact ⟨fun ⟨_, same, lists⟩ => same ▸ lists, fun lists => ⟨items, rfl, lists⟩⟩
  rw [readValue_iff]
  constructor
  · rintro ⟨_, more, shape, rfl, inner, ⟨⟩, read⟩
    exact ⟨more, shape, (elements more).mp read⟩
  · rintro ⟨more, shape, lists⟩
    exact ⟨_, more, shape, rfl, levels, rfl, (elements more).mpr lists⟩

end Lists

/-! ## Fields -/

section Fields

variable {levels : Nat}

theorem readText_iff {wanted s : String} :
    readText wanted text = .ok (s, rest) ↔ readValue levels text = .ok (.text s, rest) := by
  rw [readValue_iff, readText]
  constructor
  · intro read
    split at read
    · cases read
    · rename_i c more shape
      split at read
      · rename_i quote
        exact ⟨c, more, shape, quote, read⟩
      · cases read
  · rintro ⟨_, more, shape, rfl, read⟩
    rw [shape]
    exact read

theorem ofValue_eq_ok {range : IntRange} {v : Value} {n : Int} :
    range.ofValue v = .ok n ↔ v = .int n ∧ range.least ≤ n ∧ n ≤ range.greatest := by
  constructor
  · intro taken
    unfold IntRange.ofValue at taken
    split at taken
    · split at taken
      · rename_i inside
        cases taken
        exact ⟨rfl, inside⟩
      · cases taken
    · cases taken
  · rintro ⟨rfl, inside⟩
    rw [IntRange.ofValue, if_pos inside]

theorem number_taken {range : IntRange} {number : Except Halt (Value × List Char)} {n : Int}
    (read : (number >>= fun (v, left) => match range.ofValue v with
      | .ok n => pure (n, left)
      | .error fault => throw (halt fault left)) = .ok (n, rest)) :
    number = .ok (.int n, rest) ∧ range.least ≤ n ∧ n ≤ range.greatest := by
  obtain ⟨⟨v, left⟩, number, read⟩ := bind_eq_ok read
  dsimp only at read
  split at read
  · rename_i m taken
    cases read
    obtain ⟨rfl, inside⟩ := ofValue_eq_ok.mp taken
    exact ⟨number, inside⟩
  · cases read

theorem readInt_iff {range : IntRange} {n : Int} : readInt range text = .ok (n, rest) ↔
    readValue levels text = .ok (.int n, rest) ∧ range.least ≤ n ∧ n ≤ range.greatest := by
  rw [readValue_iff, readInt]
  constructor
  · intro read
    split at read
    · cases read
    · rename_i c more shape
      split at read
      · rename_i first
        split at read
        · rename_i minus
          obtain ⟨number, inside⟩ := number_taken read
          exact ⟨⟨c, more, shape, .inl ⟨minus, number⟩⟩, inside⟩
        · rename_i unsigned
          obtain ⟨number, inside⟩ := number_taken read
          exact ⟨⟨c, more, shape, .inr ⟨first.resolve_left unsigned, number⟩⟩, inside⟩
      · cases read
  · rintro ⟨⟨c, more, shape, number⟩, inside⟩
    have taken : range.ofValue (.int n) = .ok n := ofValue_eq_ok.mpr ⟨rfl, inside⟩
    rw [shape]
    rcases number with ⟨rfl, read⟩ | ⟨digit, read⟩
    · simp [read, taken, bind, Except.bind, pure, Except.pure]
    · have unsigned : c ≠ '-' := by
        rintro rfl
        cases digit
      simp [digit, unsigned, read, taken, bind, Except.bind, pure, Except.pure]

theorem readBag_iff {members : Members} : readBag (levels + 1) text = .ok (members, rest) ↔
    readValue (levels + 1) text = .ok (.null, rest) ∧ members = [] ∨
      readValue (levels + 1) text = .ok (.object members, rest) := by
  rw [readValue_iff, readValue_iff, readBag]
  constructor
  · intro read
    split at read
    · cases read
    · rename_i c more shape
      split at read
      · rename_i null
        obtain ⟨_, word, same⟩ := map_eq_ok read
        cases same
        exact .inl ⟨⟨c, more, shape, null, word⟩, rfl⟩
      · split at read
        · rename_i opening
          exact .inr ⟨c, more, shape, opening, levels, rfl, read⟩
        · cases read
  · rintro (⟨⟨_, more, shape, rfl, word⟩, rfl⟩ | ⟨_, more, shape, rfl, inner, ⟨⟩, read⟩)
    · simp [shape, word, Except.map]
    · simp [shape, read]

theorem unbraced_of_value {text : String} {v : Value} (reads : parseWith (readValue levels) text = .ok v)
    (other : ∀ members, v ≠ .object members) : (skipGap text.toList).head? ≠ some '\x7b' := by
  obtain ⟨rest, read, _⟩ := parseWith_iff.mp reads
  obtain ⟨c, more, shape, told⟩ := readValue_iff.mp read
  have unnumbered {v : Value} : ¬ NumberFrom '\x7b' more v rest := by
    rintro (⟨minus, _⟩ | ⟨digit, _⟩)
    · exact absurd minus (by decide)
    · exact absurd digit (by decide)
  rw [shape]
  rintro ⟨⟩
  cases v with
  | null => exact absurd told.1 (by decide)
  | bool b => cases b <;> exact absurd told.1 (by decide)
  | int n => exact unnumbered told
  | real x => exact unnumbered told
  | text s => exact absurd told.1 (by decide)
  | list items => exact absurd told.1 (by decide)
  | object members => exact other members rfl

end Fields

/-! ## Records -/

section Records

variable {σ : Type} {item : List Char → Read Value} {suits : String × Value → Prop}
  {step : σ → String × Value → σ}

/-- The field takes the values that suit its key, as `item` reads them, and no others. -/
def Heeds (item : List Char → Read Value) (suits : String × Value → Prop)
    (step : σ → String × Value → σ) (field : Field σ) : Prop :=
  ∀ s text s' rest, field.read s text = .ok (s', rest) ↔
    ∃ v, item text = .ok (v, rest) ∧ suits (field.name, v) ∧ s' = step s (field.name, v)

theorem heeds_map {β : Type} {name : String} {read : List Char → Read β} (put : σ → β → σ)
    {means : Value → β → Prop} (suited : ∀ text v rest, item text = .ok (v, rest) →
      (suits (name, v) ↔ ∃ b, means v b))
    (reads : ∀ text b rest, read text = .ok (b, rest) ↔ ∃ v, item text = .ok (v, rest) ∧ means v b)
    (puts : ∀ s v b, means v b → step s (name, v) = put s b) :
    Heeds item suits step
      ⟨name, fun s text => (read text).map fun taken => (put s taken.1, taken.2)⟩ := by
  intro s text s' rest
  constructor
  · intro mapped
    obtain ⟨⟨b, left⟩, taken, same⟩ := map_eq_ok mapped
    cases same
    obtain ⟨v, value, meant⟩ := (reads _ _ _).mp taken
    exact ⟨v, value, (suited _ _ _ value).mpr ⟨b, meant⟩, (puts s v b meant).symm⟩
  · rintro ⟨v, value, suits, rfl⟩
    obtain ⟨b, meant⟩ := (suited _ _ _ value).mp suits
    have taken := (reads _ _ _).mpr ⟨v, value, meant⟩
    rw [puts s v b meant]
    simp only [taken, Except.map]

theorem readListed_nil {first : Bool} {s s' : σ} :
    Shape.readListed [] first s text = .ok (s', rest) ↔
      nextItem first text = .ok (.done rest) ∧ s' = s := by
  unfold Shape.readListed nextItem
  rcases skipGap text with _ | ⟨c, more⟩
  · constructor
    · intro read
      cases read
    · rintro ⟨stepped, _⟩
      cases stepped
  · dsimp only
    by_cases close : c = ']'
    · rw [if_pos close, if_pos close]
      constructor
      · intro read
        cases read
        exact ⟨rfl, rfl⟩
      · rintro ⟨stepped, rfl⟩
        cases stepped
        rfl
    · rw [if_neg close, if_neg close]
      constructor
      · intro read
        split at read
        · split at read <;> cases read
        · cases read
      · rintro ⟨stepped, rfl⟩
        split at stepped
        · cases stepped
        · split at stepped
          · split at stepped
            · cases stepped
            · split at stepped <;> cases stepped
          · cases stepped

/-- Fields take the elements of a list in turn; those at the end may be left out. -/
theorem readListed_iff {fields : List (Field σ)} (heeds : ∀ field ∈ fields, Heeds item suits step field)
    {first : Bool} {s s' : σ} : Shape.readListed fields first s text = .ok (s', rest) ↔
      ∃ items, Lists item first text items rest ∧ items.length ≤ fields.length ∧
        (∀ kv ∈ (fields.map (·.name)).zip items, suits kv) ∧
        s' = ((fields.map (·.name)).zip items).foldl step s := by
  induction fields generalizing first s text with
  | nil =>
    rw [readListed_nil]
    constructor
    · rintro ⟨stepped, rfl⟩
      exact ⟨[], .done stepped, Nat.le_refl _, List.forall_mem_nil _, rfl⟩
    · rintro ⟨items, lists, few, _, rfl⟩
      cases List.length_eq_zero_iff.mp (Nat.le_zero.mp few)
      cases lists with
      | done stepped => exact ⟨stepped, rfl⟩
  | cons field fields ih =>
    have here := heeds field List.mem_cons_self
    have others := fun {first s text} =>
      @ih text (fun f member => heeds f (List.mem_cons_of_mem field member)) first s
    rw [Shape.readListed]
    constructor
    · intro read
      obtain ⟨next, stepped, read⟩ := bind_eq_ok read
      cases next with
      | done left =>
        cases read
        exact ⟨[], .done stepped, Nat.zero_le _, List.forall_mem_nil _, rfl⟩
      | item start =>
        obtain ⟨⟨t, left⟩, taken, read⟩ := bind_eq_ok read
        obtain ⟨v, value, suited, rfl⟩ := (here _ _ _ _).mp taken
        obtain ⟨items, lists, few, all, rfl⟩ := others.mp read
        exact ⟨v :: items, .item stepped value lists, Nat.succ_le_succ few,
          List.forall_mem_cons.mpr ⟨suited, all⟩, rfl⟩
    · rintro ⟨items, lists, few, all, rfl⟩
      cases lists with
      | done stepped =>
        rw [stepped]
        rfl
      | @item _ _ start left _ v items stepped value lists =>
        obtain ⟨suited, all⟩ := List.forall_mem_cons.mp all
        have taken := (here s start _ left).mpr ⟨v, value, suited, rfl⟩
        have read := others.mpr ⟨items, lists, Nat.le_of_succ_le_succ few, all, rfl⟩
        simp only [stepped, bind, Except.bind, taken, read]

/-- A text that does not open an object is a record where it is a list of values for the fields. -/
theorem read_unbraced_iff {shape : Shape σ} {levels : Nat}
    (heeds : ∀ field ∈ shape.fields, Heeds (readValue levels) suits step field)
    (unbraced : (skipGap text).head? ≠ some '\x7b') {start s : σ} :
    shape.read start text = .ok (s, rest) ↔
      ∃ items, readValue (levels + 1) text = .ok (.list items, rest) ∧
        items.length ≤ shape.fields.length ∧
        (∀ kv ∈ (shape.fields.map (·.name)).zip items, suits kv) ∧
        s = ((shape.fields.map (·.name)).zip items).foldl step start := by
  rw [Shape.read]
  constructor
  · intro read
    split at read
    · cases read
    · rename_i c more opens
      split at read
      · subst c
        obtain ⟨items, lists, good⟩ := (readListed_iff heeds).mp (Shape.settle_eq_ok read)
        exact ⟨items, readValue_list_iff.mpr ⟨more, opens, lists⟩, good⟩
      · split at read
        · subst c
          exact absurd (by rw [opens]; rfl) unbraced
        · cases read
  · rintro ⟨items, list, good⟩
    obtain ⟨more, opens, lists⟩ := readValue_list_iff.mp list
    have read := (readListed_iff heeds).mpr ⟨items, lists, good⟩
    rw [opens]
    simp only [if_true, read, Shape.settle]

end Records

end DebugGateway.Json
