/-!
# Checks that fail with a message

A validator is a sequence of checks, each of which either passes or ends the whole with
its own error.
-/

universe u v

variable {ε : Type u} {α β : Type v}

def rejectIf (bad : Bool) (e : ε) : Except ε Unit := if bad then .error e else .ok ()

@[simp] theorem rejectIf_eq_ok {bad : Bool} {e : ε} : rejectIf bad e = .ok () ↔ bad = false := by
  cases bad <;> simp [rejectIf]

def okOr (value : Option α) (e : ε) : Except ε α := value.elim (.error e) .ok

@[simp] theorem okOr_eq_ok {value : Option α} {e : ε} {a : α} :
    okOr value e = .ok a ↔ value = some a := by
  cases value <;> simp [okOr]

variable {f : α → Except ε β} {x : Except ε α}

@[simp] theorem bind_eq_ok {b : β} : (x >>= f) = .ok b ↔ ∃ a, x = .ok a ∧ f a = .ok b := by
  cases x with
  | error e => exact ⟨nofun, fun ⟨_, h, _⟩ => nomatch h⟩
  | ok a => exact ⟨fun h => ⟨a, rfl, h⟩, fun ⟨_, h, hf⟩ => Except.ok.inj h ▸ hf⟩

@[simp high] theorem check_eq_ok {γ : Type} {x : Except ε Unit}
    {f : Unit → Except ε γ} {b : γ} : (x >>= f) = .ok b ↔ x = .ok () ∧ f () = .ok b :=
  bind_eq_ok.trans ⟨fun ⟨_, h⟩ => h, fun h => ⟨(), h⟩⟩

@[simp] theorem pure_eq_ok {a b : α} : (pure a : Except ε α) = .ok b ↔ a = b :=
  ⟨fun h => Except.ok.inj h, fun h => congrArg _ h⟩

theorem map_eq_ok {f : α → β} {b : β} : x.map f = .ok b ↔ ∃ a, x = .ok a ∧ f a = b := by
  cases x with
  | error e => exact ⟨nofun, fun ⟨_, h, _⟩ => nomatch h⟩
  | ok a => exact ⟨fun h => ⟨a, rfl, Except.ok.inj h⟩, fun ⟨_, h, hf⟩ => Except.ok.inj h ▸ hf ▸ rfl⟩

theorem mapError_eq_ok {ε' : Type u} {f : ε → ε'} {a : α} : x.mapError f = .ok a ↔ x = .ok a := by
  cases x with
  | error e => exact ⟨nofun, nofun⟩
  | ok b => exact ⟨fun h => congrArg _ (Except.ok.inj h), fun h => congrArg _ (Except.ok.inj h)⟩

theorem bind_eq_error {e : ε} :
    (x >>= f) = .error e ↔ x = .error e ∨ ∃ a, x = .ok a ∧ f a = .error e := by
  cases x with
  | error e' =>
    exact ⟨fun h => .inl (congrArg _ (Except.error.inj h)),
      fun h => h.elim (fun h => congrArg _ (Except.error.inj h)) (fun ⟨_, h, _⟩ => nomatch h)⟩
  | ok a =>
    exact ⟨fun h => .inr ⟨a, rfl, h⟩,
      fun h => h.elim nofun (fun ⟨_, h, hf⟩ => Except.ok.inj h ▸ hf)⟩

theorem rejectIf_eq_error {bad : Bool} {e e' : ε} :
    rejectIf bad e = .error e' ↔ bad = true ∧ e = e' := by
  cases bad <;> simp [rejectIf]

def Except.passes : Except ε α → Bool
  | .ok _ => true
  | .error _ => false

@[simp] theorem passes_iff {x : Except ε Unit} : x.passes = true ↔ x = .ok () := by
  cases x <;> simp [Except.passes]

/-! ## Loops that stop at the first error -/

/-- A loop that runs to its end. -/
theorem List.foldlM_ok {σ : Type v} {f : σ → α → Except ε σ} {I : List α → σ → Prop}
    (hround : ∀ a l s, I (a :: l) s → ∃ s', f s a = .ok s' ∧ I l s') :
    ∀ (l : List α) (s : σ), I l s → ∃ s', l.foldlM f s = .ok s' ∧ I [] s'
  | [], s, h => ⟨s, rfl, h⟩
  | a :: l, s, h => by
    obtain ⟨s', hf, h'⟩ := hround a l s h
    obtain ⟨s'', hl, h''⟩ := List.foldlM_ok hround l s' h'
    refine ⟨s'', ?_, h''⟩
    rw [List.foldlM_cons, hf]
    exact hl

theorem List.mapM_ok :
    ∀ {l : List α}, (∀ a ∈ l, ∃ b, f a = .ok b) →
      ∃ bs, l.mapM f = .ok bs ∧ ∀ b ∈ bs, ∃ a ∈ l, f a = .ok b
  | [], _ => ⟨[], rfl, List.forall_mem_nil _⟩
  | a :: l, h => by
    obtain ⟨b, hb⟩ := h a List.mem_cons_self
    obtain ⟨bs, hbs, hof⟩ := List.mapM_ok fun a' ha' => h a' (List.mem_cons_of_mem a ha')
    refine ⟨b :: bs, ?_, fun b' hb' => ?_⟩
    · rw [List.mapM_cons, hb]
      show (l.mapM f >>= fun bs' => pure (b :: bs')) = _
      rw [hbs]
      rfl
    · obtain rfl | hb' := List.mem_cons.mp hb'
      · exact ⟨a, List.mem_cons_self, hb⟩
      · obtain ⟨a', ha', hfa'⟩ := hof b' hb'
        exact ⟨a', List.mem_cons_of_mem a ha', hfa'⟩

theorem List.exists_of_mem_mapM :
    ∀ {l : List α} {bs : List β}, l.mapM f = .ok bs → ∀ b ∈ bs, ∃ a ∈ l, f a = .ok b
  | [], bs, h => by
    cases h
    exact List.forall_mem_nil _
  | a :: l, bs, h => by
    rw [List.mapM_cons] at h
    obtain ⟨b, hb, h⟩ := bind_eq_ok.mp h
    obtain ⟨bs', hbs', h⟩ := bind_eq_ok.mp h
    obtain rfl := pure_eq_ok.mp h
    refine List.forall_mem_cons.mpr ⟨⟨a, List.mem_cons_self, hb⟩, fun b' hb' => ?_⟩
    obtain ⟨a', ha', hfa'⟩ := List.exists_of_mem_mapM hbs' b' hb'
    exact ⟨a', List.mem_cons_of_mem a ha', hfa'⟩

theorem List.mapM_congr_left {α β ε : Type} {f g : α → Except ε β} :
    ∀ {l : List α}, (∀ a ∈ l, f a = g a) → l.mapM f = l.mapM g
  | [], _ => rfl
  | a :: l, h => by
    rw [List.mapM_cons, List.mapM_cons, h a List.mem_cons_self,
      List.mapM_congr_left fun b hb => h b (List.mem_cons_of_mem a hb)]

theorem List.filterM_eq_ok {α : Type} {ε : Type} {test : α → Except ε Bool} {keep : α → Bool}
    {l : List α} (h : ∀ a ∈ l, test a = .ok (keep a)) : l.filterM test = .ok (l.filter keep) := by
  have haux : ∀ (l acc : List α), (∀ a ∈ l, test a = .ok (keep a)) →
      l.filterAuxM test acc = .ok ((l.filter keep).reverse ++ acc) := by
    intro l
    induction l with
    | nil => exact fun acc _ => rfl
    | cons a l ih =>
      intro acc h
      rw [List.filterAuxM, h a List.mem_cons_self]
      refine (ih _ fun b hb => h b (List.mem_cons_of_mem a hb)).trans ?_
      cases hkeep : keep a <;> simp [hkeep]
  rw [List.filterM, haux l [] h, List.append_nil]
  exact congrArg Except.ok (List.reverse_reverse _)
