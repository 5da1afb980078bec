import Mathlib.Data.List.Basic

/-!
# Programs with a state that survives failure

`Proc σ ε α` is a program that reads and writes a state `σ` and ends with a value or an error.
Unlike a transaction, a failing program keeps what it wrote before it failed, which is how an early
return (`?`) leaves the objects it has already touched.

The equations `bind_apply`, `get_apply` and so on execute a program symbolically.  `Keeps I p` says
that `p` preserves `I` however it ends; it composes along the program text, so that a frame
condition for a long program is proved statement by statement.  `Commutes g p` says that `p` does
not notice the change `g` of the state, `Raises P p s` that it fails with errors in `P` only, and
`Logs log script p s` that it writes down a beginning of its script; they compose in the same way.
-/

set_option autoImplicit false

/-- A program on the state `σ` with errors in `ε`. -/
def Proc (σ ε α : Type) : Type := σ → Except ε α × σ

namespace Proc

variable {σ ε δ α β : Type}

/-- Run `k` on the value of `p`, or stop at the error of `p`, in the state `p` leaves. -/
protected def bind (p : Proc σ ε α) (k : α → Proc σ ε β) : Proc σ ε β := fun s ↦
  match p s with
  | (.ok a, s') => k a s'
  | (.error e, s') => (.error e, s')

instance : Monad (Proc σ ε) where
  pure a := fun s ↦ (.ok a, s)
  bind := Proc.bind

/-- The state. -/
def get : Proc σ ε σ := fun s ↦ (.ok s, s)

/-- Changes the state. -/
def modify (f : σ → σ) : Proc σ ε Unit := fun s ↦ (.ok (), f s)

/-- Ends with an error. -/
def fail (e : ε) : Proc σ ε α := fun s ↦ (.error e, s)

/-- Ends as `r` says. -/
def ofExcept (r : Except ε α) : Proc σ ε α := fun s ↦ (r, s)

/-- Translates the error. -/
def mapError (f : ε → δ) (p : Proc σ ε α) : Proc σ δ α := fun s ↦ ((p s).1.mapError f, (p s).2)

/-- Runs `p` for its effect on the state, whether it fails or not. -/
def ignore (p : Proc σ ε α) : Proc σ δ Unit := fun s ↦ (.ok (), (p s).2)

/-- Runs a program that cannot fail on its own and hands its result to the caller. -/
def attempt (p : Proc σ ε α) : Proc σ δ (Except ε α) := fun s ↦ (.ok (p s).1, (p s).2)

/-- Runs `p` if `b` does not hold. -/
def skipIf (p : Proc σ ε Unit) (b : Bool) : Proc σ ε Unit := if b then pure () else p

/-! ## Symbolic execution -/

@[simp] theorem pure_apply (a : α) (s : σ) : (pure a : Proc σ ε α) s = (.ok a, s) := rfl

theorem bind_apply (p : Proc σ ε α) (k : α → Proc σ ε β) (s : σ) :
    (p >>= k) s = match p s with
      | (.ok a, s') => k a s'
      | (.error e, s') => (.error e, s') := rfl

theorem bind_of_ok {p : Proc σ ε α} {s t : σ} {a : α} (h : p s = (.ok a, t))
    (k : α → Proc σ ε β) : (p >>= k) s = k a t := by
  rw [bind_apply, h]

theorem bind_of_error {p : Proc σ ε α} {s t : σ} {e : ε} (h : p s = (.error e, t))
    (k : α → Proc σ ε β) : (p >>= k) s = (.error e, t) := by
  rw [bind_apply, h]

@[simp] theorem pure_bind_apply (a : α) (k : α → Proc σ ε β) (s : σ) :
    ((pure a : Proc σ ε α) >>= k) s = k a s := rfl

@[simp] theorem get_bind_apply (k : σ → Proc σ ε β) (s : σ) :
    ((get : Proc σ ε σ) >>= k) s = k s s := rfl

@[simp] theorem modify_bind_apply (f : σ → σ) (k : Unit → Proc σ ε β) (s : σ) :
    ((modify f : Proc σ ε Unit) >>= k) s = k () (f s) := rfl

@[simp] theorem get_apply (s : σ) : (get : Proc σ ε σ) s = (.ok s, s) := rfl

@[simp] theorem modify_apply (f : σ → σ) (s : σ) :
    (modify f : Proc σ ε Unit) s = (.ok (), f s) := rfl

@[simp] theorem fail_apply (e : ε) (s : σ) : (fail e : Proc σ ε α) s = (.error e, s) := rfl

@[simp] theorem ofExcept_apply (r : Except ε α) (s : σ) :
    (ofExcept r : Proc σ ε α) s = (r, s) := rfl

@[simp] theorem mapError_apply (f : ε → δ) (p : Proc σ ε α) (s : σ) :
    (p.mapError f) s = ((p s).1.mapError f, (p s).2) := rfl

@[simp] theorem ignore_apply (p : Proc σ ε α) (s : σ) :
    (p.ignore : Proc σ δ Unit) s = (.ok (), (p s).2) := rfl

@[simp] theorem attempt_apply (p : Proc σ ε α) (s : σ) :
    (p.attempt : Proc σ δ (Except ε α)) s = (.ok (p s).1, (p s).2) := rfl

@[simp] theorem ignore_bind_apply (p : Proc σ ε α) (k : Unit → Proc σ δ β) (s : σ) :
    (p.ignore >>= k) s = k () (p s).2 := rfl

theorem skipIf_false (p : Proc σ ε Unit) : p.skipIf false = p := rfl

/-! ## Inversion -/

/-- How a sequence of two programs came to its end. -/
theorem bind_cases {p : Proc σ ε α} {k : α → Proc σ ε β} {s s' : σ} {r : Except ε β}
    (h : (p >>= k) s = (r, s')) :
    (∃ e, p s = (.error e, s') ∧ r = .error e) ∨ ∃ a s₁, p s = (.ok a, s₁) ∧ k a s₁ = (r, s') := by
  rw [bind_apply] at h
  split at h
  · rename_i a s₁ hp
    exact Or.inr ⟨a, s₁, hp, h⟩
  · rename_i e s₁ hp
    obtain ⟨rfl, rfl⟩ := Prod.mk.inj h
    exact Or.inl ⟨e, hp, rfl⟩

theorem mapError_ok {g : ε → δ} {p : Proc σ ε α} {s s' : σ} {a : α}
    (h : (p.mapError g) s = (.ok a, s')) : p s = (.ok a, s') := by
  rw [mapError_apply] at h
  rcases hp : p s with ⟨e | b, s₁⟩
  · rw [hp] at h
    simp [Except.mapError] at h
  · rw [hp] at h
    simpa [Except.mapError] using h

theorem mapError_error {g : ε → δ} {p : Proc σ ε α} {s s' : σ} {d : δ}
    (h : (p.mapError g) s = (.error d, s')) : ∃ e, p s = (.error e, s') ∧ d = g e := by
  rw [mapError_apply] at h
  rcases hp : p s with ⟨e | b, s₁⟩
  · rw [hp] at h
    simp only [Except.mapError, Prod.mk.injEq, Except.error.injEq] at h
    exact ⟨e, by rw [h.2], h.1.symm⟩
  · rw [hp] at h
    simp [Except.mapError] at h

/-! ## Frame conditions -/

/-- `p` preserves `I`, whether it succeeds or fails. -/
def Keeps (I : σ → Prop) (p : Proc σ ε α) : Prop := ∀ s, I s → I (p s).2

namespace Keeps

variable {I : σ → Prop}

theorem pure (a : α) : Keeps I (Pure.pure a : Proc σ ε α) := fun _ h ↦ h

theorem get : Keeps I (Proc.get : Proc σ ε σ) := fun _ h ↦ h

theorem fail (e : ε) : Keeps I (Proc.fail e : Proc σ ε α) := fun _ h ↦ h

theorem ofExcept (r : Except ε α) : Keeps I (Proc.ofExcept r : Proc σ ε α) := fun _ h ↦ h

theorem modify {f : σ → σ} (h : ∀ s, I s → I (f s)) : Keeps I (Proc.modify f : Proc σ ε Unit) := h

theorem bind {p : Proc σ ε α} {k : α → Proc σ ε β} (hp : Keeps I p) (hk : ∀ a, Keeps I (k a)) :
    Keeps I (p >>= k) := by
  intro s hs
  have hs' := hp s hs
  rw [bind_apply]
  rcases h : p s with ⟨r | a, s'⟩
  · simpa [h] using hs'
  · rw [h] at hs'
    exact hk a s' hs'

theorem mapError {f : ε → δ} {p : Proc σ ε α} (hp : Keeps I p) : Keeps I (p.mapError f) := hp

theorem ignore {p : Proc σ ε α} (hp : Keeps I p) : Keeps I (p.ignore : Proc σ δ Unit) := hp

theorem attempt {p : Proc σ ε α} (hp : Keeps I p) :
    Keeps I (p.attempt : Proc σ δ (Except ε α)) := hp

theorem ite {c : Prop} [Decidable c] {p q : Proc σ ε α} (hp : Keeps I p) (hq : Keeps I q) :
    Keeps I (if c then p else q) := by
  split
  · exact hp
  · exact hq

theorem skipIf (b : Bool) {p : Proc σ ε Unit} (hp : Keeps I p) : Keeps I (p.skipIf b) :=
  .ite (.pure ()) hp

end Keeps

/-! ## Changes that go unnoticed -/

/-- `p` does the same before the change `g` of the state as behind it. -/
def Commutes (g : σ → σ) (p : Proc σ ε α) : Prop := ∀ s, p (g s) = ((p s).1, g (p s).2)

namespace Commutes

variable {g : σ → σ}

theorem pure (a : α) : Commutes g (Pure.pure a : Proc σ ε α) := fun _ ↦ rfl

theorem fail (e : ε) : Commutes g (Proc.fail e : Proc σ ε α) := fun _ ↦ rfl

theorem ofExcept (r : Except ε α) : Commutes g (Proc.ofExcept r : Proc σ ε α) := fun _ ↦ rfl

theorem modify {f : σ → σ} (h : ∀ s, f (g s) = g (f s)) :
    Commutes g (Proc.modify f : Proc σ ε Unit) := fun s ↦ by
  rw [modify_apply, modify_apply, h]

theorem bind {p : Proc σ ε α} {k : α → Proc σ ε β} (hp : Commutes g p)
    (hk : ∀ a, Commutes g (k a)) : Commutes g (p >>= k) := by
  intro s
  rw [bind_apply, bind_apply, hp s]
  rcases p s with ⟨e | a, s'⟩
  · rfl
  · exact hk a s'

/-- What is read of the state may not show the change. -/
theorem get_bind {k : σ → Proc σ ε β} (hsame : ∀ s, k (g s) = k s)
    (hk : ∀ s, Commutes g (k s)) : Commutes g (Proc.get >>= k) := by
  intro s
  rw [get_bind_apply, get_bind_apply, hsame]
  exact hk s s

theorem mapError {f : ε → δ} {p : Proc σ ε α} (hp : Commutes g p) :
    Commutes g (p.mapError f) := fun s ↦ by
  rw [mapError_apply, mapError_apply, hp s]

theorem ignore {p : Proc σ ε α} (hp : Commutes g p) :
    Commutes g (p.ignore : Proc σ δ Unit) := fun s ↦ by
  rw [ignore_apply, ignore_apply, hp s]

theorem attempt {p : Proc σ ε α} (hp : Commutes g p) :
    Commutes g (p.attempt : Proc σ δ (Except ε α)) := fun s ↦ by
  rw [attempt_apply, attempt_apply, hp s]

theorem ite {c : Prop} [Decidable c] {p q : Proc σ ε α} (hp : Commutes g p) (hq : Commutes g q) :
    Commutes g (if c then p else q) := by
  split
  · exact hp
  · exact hq

theorem skipIf (b : Bool) {p : Proc σ ε Unit} (hp : Commutes g p) : Commutes g (p.skipIf b) :=
  .ite (.pure ()) hp

end Commutes

/-! ## What a program fails with -/

/-- The error `p` ends with when it is run from `s`, if it does, satisfies `P`. -/
def Raises (P : ε → Prop) (p : Proc σ ε α) (s : σ) : Prop := ∀ e, (p s).1 = .error e → P e

namespace Raises

variable {P : ε → Prop} {s : σ}

theorem pure (a : α) : Raises P (Pure.pure a : Proc σ ε α) s := by
  rintro e ⟨⟩

theorem modify (f : σ → σ) : Raises P (Proc.modify f : Proc σ ε Unit) s := by
  rintro e ⟨⟩

theorem fail {e : ε} (h : P e) : Raises P (Proc.fail e : Proc σ ε α) s := by
  rintro e' ⟨⟩
  exact h

theorem ofExcept {r : Except ε α} (h : ∀ e, r = .error e → P e) :
    Raises P (Proc.ofExcept r : Proc σ ε α) s := h

/-- The second program is run from where the first has left the state. -/
theorem bind {p : Proc σ ε α} {k : α → Proc σ ε β} (hp : Raises P p s)
    (hk : ∀ a s', p s = (.ok a, s') → Raises P (k a) s') : Raises P (p >>= k) s := by
  intro e he
  obtain ⟨e', hps, hr⟩ | ⟨a, s₁, hps, hks⟩ := bind_cases (r := ((p >>= k) s).1) rfl
  · obtain rfl := Except.error.inj (he.symm.trans hr)
    exact hp e (congrArg Prod.fst hps)
  · exact hk a s₁ hps e ((congrArg Prod.fst hks).trans he)

theorem get_bind {k : σ → Proc σ ε β} (hk : Raises P (k s) s) : Raises P (Proc.get >>= k) s := hk

theorem mapError {f : δ → ε} {p : Proc σ δ α} (hp : Raises (fun e ↦ P (f e)) p s) :
    Raises P (p.mapError f) s := by
  intro e he
  have hrun : (p.mapError f) s = (.error e, (p s).2) := Prod.ext he rfl
  obtain ⟨e', hps, rfl⟩ := mapError_error hrun
  exact hp e' (congrArg Prod.fst hps)

theorem ignore (p : Proc σ δ α) : Raises P (p.ignore : Proc σ ε Unit) s := by
  rintro e ⟨⟩

/-- A program that is attempted hands its error on. -/
theorem attempt_bind {p : Proc σ δ α} {k : Except δ α → Proc σ ε β}
    (hk : Raises P (k (p s).1) (p s).2) : Raises P (p.attempt >>= k) s := hk

theorem skipIf (b : Bool) {p : Proc σ ε Unit} (hp : b = false → Raises P p s) :
    Raises P (p.skipIf b) s := by
  cases b with
  | true => exact pure ()
  | false => exact hp rfl

end Raises

/-! ## What a program writes down -/

section Logs

variable {τ : Type} {log : σ → List τ} {script script' : List τ} {s : σ}

/-- Run from `s`, `p` adds a beginning of `script` to the log, and the whole of it unless it
fails. -/
def Logs (log : σ → List τ) (script : List τ) (p : Proc σ ε α) (s : σ) : Prop :=
  ∃ written, log (p s).2 = log s ++ written ∧ written <+: script ∧
    ∀ a, (p s).1 = .ok a → written = script

namespace Logs

theorem fail (e : ε) (script : List τ) : Logs log script (Proc.fail e : Proc σ ε α) s :=
  ⟨[], (List.append_nil _).symm, List.nil_prefix, by rintro a ⟨⟩⟩

/-- A program that leaves the log as it is has followed the empty script. -/
theorem of_eq {p : Proc σ ε α} (h : log (p s).2 = log s) : Logs log [] p s :=
  ⟨[], h.trans (List.append_nil _).symm, List.prefix_rfl, fun _ _ ↦ rfl⟩

/-- A program that writes the whole of its script down even if it fails. -/
theorem of_append {p : Proc σ ε α} (h : log (p s).2 = log s ++ script) : Logs log script p s :=
  ⟨script, h, List.prefix_rfl, fun _ _ ↦ rfl⟩

theorem eq_of_nil {p : Proc σ ε α} (h : Logs log [] p s) : log (p s).2 = log s := by
  obtain ⟨written, hlog, hwritten, -⟩ := h
  rw [hlog, List.prefix_nil.1 hwritten, List.append_nil]

theorem pure (a : α) : Logs log [] (Pure.pure a : Proc σ ε α) s := of_eq rfl

theorem ofExcept (r : Except ε α) : Logs log [] (Proc.ofExcept r : Proc σ ε α) s := of_eq rfl

theorem modify {f : σ → σ} (h : log (f s) = log s) :
    Logs log [] (Proc.modify f : Proc σ ε Unit) s := of_eq h

/-- One script behind the other. -/
theorem bind {p : Proc σ ε α} {k : α → Proc σ ε β} (hp : Logs log script p s)
    (hk : ∀ a s', p s = (.ok a, s') → Logs log script' (k a) s') :
    Logs log (script ++ script') (p >>= k) s := by
  obtain ⟨written, hlog, hwritten, hwhole⟩ := hp
  rcases hps : p s with ⟨e | a, s₁⟩
  · rw [hps] at hlog
    refine ⟨written, ?_, hwritten.trans (List.prefix_append _ _), ?_⟩
    · rw [bind_of_error hps]
      exact hlog
    · rw [bind_of_error hps]
      rintro b ⟨⟩
  · obtain ⟨written', hlog', hwritten', hwhole'⟩ := hk a s₁ hps
    obtain rfl := hwhole a (congrArg Prod.fst hps)
    rw [hps] at hlog
    refine ⟨written ++ written', ?_, List.prefix_append_right_inj written |>.2 hwritten', ?_⟩
    · rw [bind_of_ok hps, hlog', hlog, List.append_assoc]
    · intro b hb
      rw [bind_of_ok hps] at hb
      rw [hwhole' b hb]

theorem get_bind {k : σ → Proc σ ε β} (hk : Logs log script (k s) s) :
    Logs log script (Proc.get >>= k) s := hk

theorem mapError {f : ε → δ} {p : Proc σ ε α} (hp : Logs log script p s) :
    Logs log script (p.mapError f) s := by
  obtain ⟨written, hlog, hwritten, hwhole⟩ := hp
  refine ⟨written, hlog, hwritten, fun a ha ↦ hwhole a ?_⟩
  have hrun : (p.mapError f) s = (.ok a, (p s).2) := Prod.ext ha rfl
  exact congrArg Prod.fst (mapError_ok hrun)

theorem ignore {p : Proc σ ε α} (hp : Logs log [] p s) :
    Logs log [] (p.ignore : Proc σ δ Unit) s := of_eq hp.eq_of_nil

theorem skipIf (b : Bool) {p : Proc σ ε Unit} (hp : Logs log [] p s) :
    Logs log [] (p.skipIf b) s := by
  cases b with
  | true => exact pure ()
  | false => exact hp

/-- What is done about a failure adds nothing, and fails. -/
theorem attempt_bind {p : Proc σ δ α} {k : Except δ α → Proc σ ε β} (hp : Logs log script p s)
    (hfail : ∀ e s', (∀ b, (k (.error e) s').1 ≠ .ok b) ∧ Logs log [] (k (.error e)) s')
    (hk : ∀ a s', p s = (.ok a, s') → Logs log script' (k (.ok a)) s') :
    Logs log (script ++ script') (p.attempt >>= k) s := by
  obtain ⟨written, hlog, hwritten, hwhole⟩ := hp
  have hrun : (p.attempt >>= k) s = k (p s).1 (p s).2 := rfl
  rw [Logs, hrun]
  rcases hps : p s with ⟨e | a, s₁⟩
  · obtain ⟨hnot, hnothing⟩ := hfail e s₁
    rw [hps] at hlog
    exact ⟨written, hnothing.eq_of_nil.trans hlog, hwritten.trans (List.prefix_append _ _),
      fun b hb ↦ absurd hb (hnot b)⟩
  · obtain ⟨written', hlog', hwritten', hwhole'⟩ := hk a s₁ hps
    obtain rfl := hwhole a (congrArg Prod.fst hps)
    rw [hps] at hlog
    refine ⟨written ++ written', ?_, List.prefix_append_right_inj written |>.2 hwritten', ?_⟩
    · rw [hlog', hlog, List.append_assoc]
    · intro b hb
      rw [hwhole' b hb]

end Logs

end Logs

end Proc
