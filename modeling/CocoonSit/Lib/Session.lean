import Mathlib.Logic.Basic

/-!
# Programs over a database session

A session holds what its transaction has come to, which is its own until it commits.  A program over
it reads and changes that, sends the changes to the database (`flush`), and may raise.  A flush that
is refused raises too, and the session is of no use after it: it cannot be committed.

An exception that the caller catches is harmless when the session is broken or nothing has been
changed (`Clean`).  The rules below say which programs are of that kind: one that only reads, then
checks, then writes, and raises no more on its own once it has begun to write.
-/

namespace CocoonSit

universe u

/-- What a session's transaction has come to, and whether a refused flush has ended it. -/
structure Session (σ : Type u) where
  work : σ
  broken : Bool := false

/-- A program over a session. -/
abbrev SessionM (σ ε : Type u) := ExceptT ε (StateM (Session σ))

namespace SessionM

variable {σ ε α β : Type u}

/-- The result, and the session it leaves. -/
def run (p : SessionM σ ε α) (s : Session σ) : Except ε α × Session σ := p s

/-- What the session's queries see. -/
def work : SessionM σ ε σ := fun s => (.ok s.work, s)

/-- A check that may raise. -/
def check (x : Except ε α) : SessionM σ ε α := fun s => (x, s)

/-- Rows are added, changed or deleted. -/
def change (f : σ → σ) : SessionM σ ε PUnit := fun s => (.ok ⟨⟩, { s with work := f s.work })

def flush (refused : Bool) (error : ε) : SessionM σ ε PUnit := fun s =>
  if refused then (.error error, { s with broken := true }) else (.ok ⟨⟩, s)

/-- `session.commit()`, or the end of a session without one: what the database holds then. -/
def committed (stored : σ) (refused : Bool) (s : Session σ) : σ :=
  if s.broken || refused then stored else s.work

/-! ## Running a program -/

lemma run_bind (p : SessionM σ ε α) (f : α → SessionM σ ε β) (s : Session σ) :
    run (p >>= f) s = match run p s with
      | (.ok a, s') => run (f a) s'
      | (.error e, s') => (.error e, s') := by
  simp only [run, bind, ExceptT.bind, ExceptT.mk, StateT.bind]
  rcases p s with ⟨_ | _, _⟩ <;> rfl

lemma run_bind_ok {p : SessionM σ ε α} {s s' : Session σ} {a : α} (h : run p s = (.ok a, s'))
    (f : α → SessionM σ ε β) : run (p >>= f) s = run (f a) s' := by
  rw [run_bind, h]

lemma run_bind_error {p : SessionM σ ε α} {s s' : Session σ} {e : ε}
    (h : run p s = (.error e, s')) (f : α → SessionM σ ε β) :
    run (p >>= f) s = (.error e, s') := by
  rw [run_bind, h]

@[simp] lemma run_work (s : Session σ) :
    run (work : SessionM σ ε σ) s = (.ok s.work, s) := rfl

@[simp] lemma run_check (x : Except ε α) (s : Session σ) : run (check x) s = (x, s) := rfl

@[simp] lemma run_change (f : σ → σ) (s : Session σ) :
    run (change f : SessionM σ ε PUnit) s = (.ok ⟨⟩, { s with work := f s.work }) := rfl

@[simp] lemma run_work_bind (f : σ → SessionM σ ε β) (s : Session σ) :
    run (work >>= f) s = run (f s.work) s := run_bind_ok (run_work s) f

@[simp] lemma run_change_bind (f : σ → σ) (g : PUnit → SessionM σ ε β) (s : Session σ) :
    run (change f >>= g) s = run (g ⟨⟩) { s with work := f s.work } :=
  run_bind_ok (run_change f s) g

@[simp] lemma run_check_ok_bind (a : α) (f : α → SessionM σ ε β) (s : Session σ) :
    run (check (.ok a) >>= f) s = run (f a) s := run_bind_ok (run_check _ s) f

@[simp] lemma run_check_error_bind (e : ε) (f : α → SessionM σ ε β) (s : Session σ) :
    run (check (.error e) >>= f) s = (.error e, s) := run_bind_error (run_check _ s) f

@[simp] lemma run_flush_refused (e : ε) (s : Session σ) :
    run (flush true e) s = (.error e, { s with broken := true }) := rfl

@[simp] lemma run_flush_accepted (e : ε) (s : Session σ) :
    run (flush false e) s = (.ok ⟨⟩, s) := rfl

@[simp] lemma run_flush_refused_bind (e : ε) (f : PUnit → SessionM σ ε β) (s : Session σ) :
    run (flush true e >>= f) s = (.error e, { s with broken := true }) :=
  run_bind_error (run_flush_refused e s) f

@[simp] lemma run_flush_accepted_bind (e : ε) (f : PUnit → SessionM σ ε β) (s : Session σ) :
    run (flush false e >>= f) s = run (f ⟨⟩) s := run_bind_ok (run_flush_accepted e s) f

/-! ## Programs that return -/

/-- It returns, and leaves such a session. -/
def Returns (p : SessionM σ ε α) (s : Session σ) (P : Session σ → Prop) : Prop :=
  ∃ a s', run p s = (.ok a, s') ∧ P s'

section Returns

variable {f : α → SessionM σ ε β} {s : Session σ} {P : Session σ → Prop}

@[simp] lemma returns_pure (a : α) : Returns (pure a : SessionM σ ε α) s P ↔ P s := by
  refine ⟨?_, fun h => ⟨a, s, rfl, h⟩⟩
  rintro ⟨_, _, ⟨⟩, h⟩
  exact h

@[simp] lemma returns_raise (e : ε) : ¬ Returns (check (.error e) : SessionM σ ε α) s P := by
  simp [Returns]

@[simp] lemma returns_work_bind (f : σ → SessionM σ ε β) :
    Returns (work >>= f) s P ↔ Returns (f s.work) s P := by
  simp [Returns]

@[simp] lemma returns_check_bind (x : Except ε α) :
    Returns (check x >>= f) s P ↔ ∃ a, x = .ok a ∧ Returns (f a) s P := by
  cases x <;> simp [Returns]

@[simp] lemma returns_change_bind (g : σ → σ) (f : PUnit → SessionM σ ε β) :
    Returns (change g >>= f) s P ↔ Returns (f ⟨⟩) { s with work := g s.work } P := by
  simp [Returns]

@[simp] lemma returns_flush_bind (refused : Bool) (e : ε) (f : PUnit → SessionM σ ε β) :
    Returns (flush refused e >>= f) s P ↔ refused = false ∧ Returns (f ⟨⟩) s P := by
  cases refused <;> simp [Returns]

end Returns

/-! ## Programs whose exceptions are harmless -/

/-- It changes nothing. -/
def ReadOnly (p : SessionM σ ε α) : Prop := ∀ s, (run p s).2 = s

/-- Only a refused flush raises. -/
def Tight (p : SessionM σ ε α) : Prop := ∀ s e s', run p s = (.error e, s') → s'.broken

/-- When it raises, the session is broken or as it was. -/
def Clean (p : SessionM σ ε α) : Prop := ∀ s e s', run p s = (.error e, s') → s'.broken ∨ s' = s

/-- A program that returns has not broken the session. -/
def Sound (p : SessionM σ ε α) : Prop := ∀ s a s', run p s = (.ok a, s') → s'.broken = s.broken

section Rules

variable {p : SessionM σ ε α} {f : α → SessionM σ ε β}

lemma readOnly_pure (a : α) : ReadOnly (pure a : SessionM σ ε α) := fun _ => rfl

lemma readOnly_work : ReadOnly (work : SessionM σ ε σ) := fun _ => rfl

lemma readOnly_check (x : Except ε α) : ReadOnly (check x : SessionM σ ε α) := fun _ => rfl

lemma ReadOnly.bind (hp : ReadOnly p) (hf : ∀ a, ReadOnly (f a)) : ReadOnly (p >>= f) := by
  intro s
  have hs := hp s
  rw [run_bind]
  rcases hrun : run p s with ⟨_ | a, s'⟩ <;> rw [hrun] at hs <;> subst hs
  · rfl
  · exact hf a _

lemma tight_pure (a : α) : Tight (pure a : SessionM σ ε α) := by
  intro s e s' h
  cases h

lemma tight_change (g : σ → σ) : Tight (change g : SessionM σ ε PUnit) := by
  intro s e s' h
  cases h

lemma tight_flush (refused : Bool) (error : ε) :
    Tight (flush refused error : SessionM σ ε PUnit) := by
  intro s e s' h
  cases refused with
  | false => cases h
  | true => cases h; rfl

lemma Tight.bind (hp : Tight p) (hf : ∀ a, Tight (f a)) : Tight (p >>= f) := by
  intro s e s' h
  rw [run_bind] at h
  rcases hrun : run p s with ⟨_ | a, s₁⟩ <;> rw [hrun] at h
  · cases h
    exact hp s _ _ hrun
  · exact hf a _ _ _ h

lemma ReadOnly.clean (hp : ReadOnly p) : Clean p := by
  intro s e s' h
  have hs := hp s
  rw [h] at hs
  exact .inr hs

lemma Tight.clean (hp : Tight p) : Clean p := fun s e s' h => .inl (hp s e s' h)

lemma ReadOnly.clean_bind (hp : ReadOnly p) (hf : ∀ a, Clean (f a)) : Clean (p >>= f) := by
  intro s e s' h
  have hs := hp s
  rw [run_bind] at h
  rcases hrun : run p s with ⟨_ | a, s₁⟩ <;> rw [hrun] at h hs <;> subst hs
  · cases h
    exact .inr rfl
  · exact hf a _ _ _ h

lemma sound_pure (a : α) : Sound (pure a : SessionM σ ε α) := by
  intro s b s' h
  cases h
  rfl

lemma ReadOnly.sound (hp : ReadOnly p) : Sound p := by
  intro s a s' h
  have hs := hp s
  rw [h] at hs
  exact congrArg Session.broken hs

lemma sound_change (g : σ → σ) : Sound (change g : SessionM σ ε PUnit) := by
  intro s a s' h
  cases h
  rfl

lemma sound_flush (refused : Bool) (error : ε) :
    Sound (flush refused error : SessionM σ ε PUnit) := by
  intro s a s' h
  cases refused <;> cases h
  rfl

lemma Sound.bind (hp : Sound p) (hf : ∀ a, Sound (f a)) : Sound (p >>= f) := by
  intro s b s' h
  rw [run_bind] at h
  rcases hrun : run p s with ⟨_ | a, s₁⟩ <;> rw [hrun] at h
  · cases h
  · rw [hf a _ _ _ h, hp s _ _ hrun]

lemma Clean.committed_of_error (hp : Clean p) {stored : σ} {e : ε} {s' : Session σ}
    (h : run p { work := stored } = (.error e, s')) (refused : Bool) :
    committed stored refused s' = stored := by
  rcases hp _ _ _ h with hbroken | rfl
  · rw [committed, hbroken, Bool.true_or, if_pos rfl]
  · rw [committed]
    split <;> rfl

lemma Sound.committed_of_ok (hp : Sound p) {stored : σ} {a : α} {s' : Session σ}
    (h : run p { work := stored } = (.ok a, s')) (refused : Bool) :
    committed stored refused s' = s'.work ↔ (refused = true → stored = s'.work) := by
  have hbroken : s'.broken = false := hp _ _ _ h
  cases refused <;> simp [committed, hbroken]

end Rules

end SessionM

end CocoonSit
