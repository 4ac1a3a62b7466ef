import AbcMetric.Grammar.Stream

/-!
# What a grammar rule can yield

`Parser.Yields p P` says that whatever the rule `p` reads, its result has the property `P`. A rule
may also fail, and where it leaves the stream does not matter. A rule is taken apart from its front:
each step either hands a property on (`Yields.bind`) or is of no account (`yields_bind`), and the
loops over lists (`yields_commaTail`, `yields_manyWhile`) hold the property of every element they
have collected.
-/

namespace AbcMetric

/-- A sequence of two steps succeeds only if both do. -/
theorem exists_of_bind_eq_ok {ε α β : Type} {x : Except ε α} {f : α → Except ε β} {b : β}
    (h : x >>= f = .ok b) : ∃ a, x = .ok a ∧ f a = .ok b := by
  cases x with
  | error e => exact absurd h (by simp [bind, Except.bind])
  | ok a => exact ⟨a, rfl, h⟩

namespace Parser

/-- Every result of the rule has the property. -/
def Yields {α : Type} (p : Parser α) (P : α → Prop) : Prop :=
  ∀ s a s', p s = .ok (a, s') → P a

variable {α β : Type} {p : Parser α} {P Q : α → Prop} {R : β → Prop}

/-! ## Steps -/

theorem bind_eq_ok {f : α → Parser β} {s s' : Stream} {b : β} (h : (p >>= f) s = .ok (b, s')) :
    ∃ a t, p s = .ok (a, t) ∧ f a t = .ok (b, s') := by
  obtain ⟨⟨a, t⟩, ha, hb⟩ := exists_of_bind_eq_ok (x := p s) (f := fun x => f x.1 x.2) h
  exact ⟨a, t, ha, hb⟩

theorem yields_pure {a : α} (h : P a) : (pure a : Parser α).Yields P := by
  intro s b s' hs
  obtain ⟨rfl, -⟩ := Prod.mk.inj (Except.ok.inj hs)
  exact h

theorem Yields.bind {f : α → Parser β} (hp : p.Yields P) (hf : ∀ a, P a → (f a).Yields R) :
    (p >>= f).Yields R := by
  intro s b s' h
  obtain ⟨a, t, ha, hb⟩ := bind_eq_ok h
  exact hf a (hp s a t ha) t b s' hb

/-- A first step whose result is of no account. -/
theorem yields_bind {f : α → Parser β} (hf : ∀ a, (f a).Yields R) : (p >>= f).Yields R := by
  intro s b s' h
  obtain ⟨a, t, -, hb⟩ := bind_eq_ok h
  exact hf a t b s' hb

theorem Yields.imp (hp : p.Yields P) (h : ∀ a, P a → Q a) : p.Yields Q :=
  fun s a s' hs => h a (hp s a s' hs)

theorem yields_fail {cause : Cause} {offset : Nat} : (fail cause offset : Parser α).Yields P := by
  intro s a s' h
  exact absurd h (by simp [fail])

theorem yields_unexpected : (unexpected : Parser α).Yields P := by
  intro s a s' h
  unfold unexpected at h
  split at h <;> exact absurd h (by simp)

/-! ## Lists -/

theorem forall_mem_reverse {done : List α} (h : ∀ x ∈ done, P x) : ∀ x ∈ done.reverse, P x :=
  fun x hx => h x (List.mem_reverse.mp hx)

theorem yields_commaTail {starts : Token → Bool} (hp : p.Yields P) :
    ∀ (fuel : Nat) {done : List α}, (∀ x ∈ done, P x) →
      (commaTail starts p done fuel).Yields fun r => ∀ x ∈ r.1, P x
  | 0, _, _ => yields_unexpected
  | fuel + 1, done, hd => by
    unfold commaTail
    refine yields_bind fun comma => ?_
    split
    · refine yields_bind fun more => ?_
      split
      · exact hp.bind fun a ha => yields_commaTail hp fuel (List.forall_mem_cons.mpr ⟨ha, hd⟩)
      · exact yields_pure (forall_mem_reverse hd)
    · exact yields_pure (forall_mem_reverse hd)

theorem yields_commaList {starts : Token → Bool} (budget : Nat) (hp : p.Yields P) :
    (commaList budget starts p).Yields fun r => ∀ x ∈ r.1, P x := by
  unfold commaList
  exact hp.bind fun a ha =>
    yields_commaTail hp budget (List.forall_mem_cons.mpr ⟨ha, List.forall_mem_nil P⟩)

theorem yields_manyWhile_onto {starts : Token → Bool} (hp : p.Yields P) :
    ∀ (fuel : Nat) {done : List α}, (∀ x ∈ done, P x) →
      (manyWhile starts p done fuel).Yields fun r => ∀ x ∈ r, P x
  | 0, _, _ => yields_unexpected
  | fuel + 1, done, hd => by
    unfold manyWhile
    refine yields_bind fun more => ?_
    split
    · exact hp.bind fun a ha => yields_manyWhile_onto hp fuel (List.forall_mem_cons.mpr ⟨ha, hd⟩)
    · exact yields_pure (forall_mem_reverse hd)

theorem yields_manyWhile {starts : Token → Bool} (budget : Nat) (hp : p.Yields P) :
    (manyWhile starts p [] budget).Yields fun r => ∀ x ∈ r, P x :=
  yields_manyWhile_onto hp budget (List.forall_mem_nil P)

end Parser

end AbcMetric
