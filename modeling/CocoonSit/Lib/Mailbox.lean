import Mathlib.Algebra.BigOperators.Group.List.Basic
import Mathlib.Algebra.Ring.Nat
import Mathlib.Data.List.Perm.Basic

/-!
# One queue and many readers

Several parties read one queue.  A message is for one of them, but whoever waits at the queue may
get it, and then puts it back into a buffer, in which its reader looks for it before it waits at the
queue again.  A party goes on in segments between two waits; a segment is one step here, and the
environment chooses the order of the steps.

`Conserved` says that every message sent is in exactly one place.  The second half is about
progress: a step that moves a message costs some of the state's `weight`, so that messages are not
handed round for ever, and where no such step is left (`Quiet`), nothing is left of what is for a
party that still reads.
-/

namespace Mailbox

variable {P M : Type*}

/-- Where a party is between two of its segments. -/
inductive Phase (M : Type*) where
  /-- It waits at the queue. -/
  | waiting
  /-- The queue has given it a message, and it has not gone on yet. -/
  | holding (m : M)
  /-- It is at work on a message of its own. -/
  | busy
  /-- It reads no more. -/
  | gone
  deriving DecidableEq

/-- The message in a party's hands. -/
def Phase.hand : Phase M → Option M
  | .holding m => some m
  | _ => none

structure State (P M : Type*) where
  queue : List M := []
  buffer : List M := []
  parties : List (P × Phase M) := []
  /-- Who has consumed what. -/
  consumed : List (P × M) := []
  /-- All that was ever put into the queue. -/
  sent : List M := []

inductive Event (P M : Type*) where
  /-- A message is put into the queue. -/
  | put (m : M)
  /-- A party begins to read. -/
  | join (p : P)
  /-- The queue gives its first message to a party that waits. -/
  | take (p : P)
  /-- A party that waits is told that the queue has nothing for it, and goes on. -/
  | timeOut (p : P)
  /-- A party goes on with the message it was given. -/
  | resume (p : P) (m : M)
  /-- A party is done with a message, and reads on. -/
  | finish (p : P)
  /-- A party is done with a message, and reads no more. -/
  | leave (p : P)

/-- The first message that `f` is looking for, and the others. -/
def popFirst (f : M → Bool) : List M → Option (M × List M)
  | [] => none
  | m :: l => if f m then some (m, l) else (popFirst f l).map fun r => (r.1, m :: r.2)

lemma popFirst_eq_some {f : M → Bool} {l rest : List M} {m : M}
    (h : popFirst f l = some (m, rest)) :
    f m = true ∧ l.Perm (m :: rest) := by
  induction l generalizing rest with
  | nil => cases h
  | cons a l ih =>
    unfold popFirst at h
    by_cases hf : f a = true
    · rw [if_pos hf] at h
      obtain ⟨rfl, rfl⟩ := Prod.mk.inj (Option.some.inj h)
      exact ⟨hf, .refl _⟩
    · rw [if_neg hf] at h
      obtain ⟨⟨m', rest'⟩, hpop, heq⟩ := Option.map_eq_some_iff.mp h
      obtain ⟨rfl, rfl⟩ := Prod.mk.inj heq
      obtain ⟨hm, hperm⟩ := ih hpop
      exact ⟨hm, (hperm.cons a).trans (.swap ..)⟩

lemma popFirst_eq_none {f : M → Bool} {l : List M} :
    popFirst f l = none ↔ ∀ m ∈ l, f m = false := by
  induction l with
  | nil => simp [popFirst]
  | cons a l ih => by_cases hf : f a = true <;> simp [popFirst, hf, ih]

section Steps

variable [DecidableEq P] [DecidableEq M] (addressee : M → P) (last : M → Bool)

/-- The party has left its phase, and is on the way to the next. -/
def State.without (s : State P M) (p : P) (phase : Phase M) : State P M :=
  { s with parties := s.parties.erase (p, phase) }

def State.enter (s : State P M) (p : P) (phase : Phase M) : State P M :=
  { s with parties := (p, phase) :: s.parties }

/-- A party takes up a message of its own; a `last` one ends its reading. -/
def consume (p : P) (m : M) (s : State P M) : State P M :=
  { s with consumed := s.consumed ++ [(p, m)] }.enter p (if last m then .gone else .busy)

/-- What is for `p` in the buffer, or else the queue. -/
def loopTop (p : P) (s : State P M) : State P M :=
  match popFirst (fun m => addressee m = p) s.buffer with
  | none => s.enter p .waiting
  | some (m, rest) => consume last p m { s with buffer := rest }

/-- A message that is not for `p` is put back. -/
def receive (p : P) (m : M) (s : State P M) : State P M :=
  if addressee m = p then consume last p m s
  else loopTop addressee last p { s with buffer := s.buffer ++ [m] }

def step (s : State P M) : Event P M → Option (State P M)
  | .put m => some { s with queue := s.queue ++ [m], sent := s.sent ++ [m] }
  | .join p =>
    if p ∈ s.parties.map Prod.fst then none else some (loopTop addressee last p s)
  | .take p =>
    match s.queue with
    | [] => none
    | m :: queue =>
      if (p, .waiting) ∈ s.parties then
        some (({ s with queue := queue }.without p .waiting).enter p (.holding m))
      else none
  | .timeOut p =>
    if (p, .waiting) ∈ s.parties then
      some (loopTop addressee last p (s.without p .waiting))
    else none
  | .resume p m =>
    if (p, .holding m) ∈ s.parties then
      some (receive addressee last p m (s.without p (.holding m)))
    else none
  | .finish p =>
    if (p, .busy) ∈ s.parties then some (loopTop addressee last p (s.without p .busy)) else none
  | .leave p =>
    if (p, .busy) ∈ s.parties then some ((s.without p .busy).enter p .gone) else none

variable {addressee last} {s s' : State P M} {p : P} {m : M} {phase : Phase M}

lemma step_cases {e : Event P M} (h : step addressee last s e = some s') :
    (∃ m, e = .put m ∧ s' = { s with queue := s.queue ++ [m], sent := s.sent ++ [m] }) ∨
    (∃ p, e = .join p ∧ p ∉ s.parties.map Prod.fst ∧ s' = loopTop addressee last p s) ∨
    (∃ p m queue, e = .take p ∧ s.queue = m :: queue ∧ (p, .waiting) ∈ s.parties ∧
      s' = ({ s with queue := queue }.without p .waiting).enter p (.holding m)) ∨
    (∃ p, e = .timeOut p ∧ (p, .waiting) ∈ s.parties ∧
      s' = loopTop addressee last p (s.without p .waiting)) ∨
    (∃ p m, e = .resume p m ∧ (p, .holding m) ∈ s.parties ∧
      s' = receive addressee last p m (s.without p (.holding m))) ∨
    (∃ p, e = .finish p ∧ (p, .busy) ∈ s.parties ∧
      s' = loopTop addressee last p (s.without p .busy)) ∨
    (∃ p, e = .leave p ∧ (p, .busy) ∈ s.parties ∧ s' = (s.without p .busy).enter p .gone) := by
  cases e with
  | put m => exact .inl ⟨m, rfl, (Option.some.inj h).symm⟩
  | join p =>
    obtain ⟨hp, heq⟩ : p ∉ s.parties.map Prod.fst ∧ _ := by simpa [step] using h
    exact .inr (.inl ⟨p, rfl, hp, heq.symm⟩)
  | take p =>
    cases hq : s.queue with
    | nil => simp [step, hq] at h
    | cons m queue =>
      obtain ⟨hp, heq⟩ : (p, Phase.waiting) ∈ s.parties ∧ _ := by simpa [step, hq] using h
      exact .inr (.inr (.inl ⟨p, m, queue, rfl, rfl, hp, heq.symm⟩))
  | timeOut p =>
    obtain ⟨hp, heq⟩ : (p, Phase.waiting) ∈ s.parties ∧ _ := by simpa [step] using h
    exact .inr (.inr (.inr (.inl ⟨p, rfl, hp, heq.symm⟩)))
  | resume p m =>
    obtain ⟨hp, heq⟩ : (p, Phase.holding m) ∈ s.parties ∧ _ := by simpa [step] using h
    exact .inr (.inr (.inr (.inr (.inl ⟨p, m, rfl, hp, heq.symm⟩))))
  | finish p =>
    obtain ⟨hp, heq⟩ : (p, Phase.busy) ∈ s.parties ∧ _ := by simpa [step] using h
    exact .inr (.inr (.inr (.inr (.inr (.inl ⟨p, rfl, hp, heq.symm⟩)))))
  | leave p =>
    obtain ⟨hp, heq⟩ : (p, Phase.busy) ∈ s.parties ∧ _ := by simpa [step] using h
    exact .inr (.inr (.inr (.inr (.inr (.inr ⟨p, rfl, hp, heq.symm⟩)))))

/-! ## Every message is in one place -/

/-- The messages that parties have in their hands. -/
def State.hands (s : State P M) : List M := s.parties.filterMap fun x => x.2.hand

/-- The messages that nobody has consumed. -/
def State.unread (s : State P M) : List M := s.queue ++ s.buffer ++ s.hands

def State.held (s : State P M) : List M := s.unread ++ s.consumed.map Prod.snd

/-- Every message sent is held once. -/
def Conserved (s : State P M) : Prop := s.held.Perm s.sent

omit [DecidableEq P] in
lemma held_enter (s : State P M) (p : P) (phase : Phase M) :
    (s.enter p phase).held.Perm (phase.hand.toList ++ s.held) := by
  rw [List.perm_iff_count]
  intro a
  cases h : phase.hand <;> simp [State.held, State.unread, State.hands, State.enter, h,
    List.count_cons]
  omega

lemma held_without (h : (p, phase) ∈ s.parties) :
    s.held.Perm (phase.hand.toList ++ (s.without p phase).held) := by
  have hback : s.held.Perm ((s.without p phase).enter p phase).held := by
    refine .append (.append_left _ ?_) (.refl _)
    exact (List.perm_cons_erase h).filterMap _
  exact hback.trans (held_enter _ p phase)

omit [DecidableEq P] in
lemma held_consume (s : State P M) (p : P) (m : M) :
    (consume last p m s).held.Perm (m :: s.held) := by
  refine (held_enter _ p _).trans ?_
  rw [List.perm_iff_count]
  intro a
  cases h : last m <;>
    simp [State.held, State.unread, State.hands, Phase.hand, List.count_cons] <;> omega

lemma held_loopTop (s : State P M) (p : P) : (loopTop addressee last p s).held.Perm s.held := by
  unfold loopTop
  split
  · exact held_enter s p .waiting
  · next m rest hpop =>
    refine (held_consume _ p m).trans ?_
    have hbuffer := (popFirst_eq_some hpop).2
    rw [List.perm_iff_count] at hbuffer ⊢
    intro a
    have := hbuffer a
    simp only [State.held, State.unread, State.hands, List.count_append, List.count_cons]
      at this ⊢
    omega

lemma held_receive (s : State P M) (p : P) (m : M) :
    (receive addressee last p m s).held.Perm (m :: s.held) := by
  unfold receive
  split
  · exact held_consume s p m
  · refine (held_loopTop _ p).trans ?_
    rw [List.perm_iff_count]
    intro a
    simp [State.held, State.unread, State.hands, List.count_cons]
    omega

omit [DecidableEq M] in
lemma sent_loopTop (s : State P M) (p : P) : (loopTop addressee last p s).sent = s.sent := by
  unfold loopTop
  split <;> rfl

omit [DecidableEq M] in
lemma sent_receive (s : State P M) (p : P) (m : M) :
    (receive addressee last p m s).sent = s.sent := by
  unfold receive
  split
  · rfl
  · exact sent_loopTop _ p

theorem conserved_step {e : Event P M} (hc : Conserved s) (h : step addressee last s e = some s') :
    Conserved s' := by
  unfold Conserved at hc ⊢
  obtain ⟨m, -, rfl⟩ | ⟨p, -, -, rfl⟩ | ⟨p, m, queue, -, hq, hp, rfl⟩ | ⟨p, -, hp, rfl⟩ |
    ⟨p, m, -, hp, rfl⟩ | ⟨p, -, hp, rfl⟩ | ⟨p, -, hp, rfl⟩ := step_cases h
  · rw [List.perm_iff_count] at hc ⊢
    intro a
    have := hc a
    simp only [State.held, State.unread, State.hands, List.count_append] at this ⊢
    omega
  · rw [sent_loopTop]
    exact (held_loopTop s p).trans hc
  · refine (held_enter _ p (.holding m)).trans (.trans ?_ hc)
    have hwithout : (State.held { s with queue := queue }).Perm _ := held_without hp
    refine (List.Perm.append_left [m] hwithout.symm).trans ?_
    simp [State.held, State.unread, State.hands, hq]
  · rw [sent_loopTop]
    exact (held_loopTop _ p).trans ((held_without hp).symm.trans hc)
  · rw [sent_receive]
    exact (held_receive _ p m).trans ((held_without hp).symm.trans hc)
  · rw [sent_loopTop]
    exact (held_loopTop _ p).trans ((held_without hp).symm.trans hc)
  · exact (held_enter _ p .gone).trans ((held_without hp).symm.trans hc)

/-! ## Each party consumes its own messages -/

def OwnOnly (addressee : M → P) (s : State P M) : Prop :=
  ∀ x ∈ s.consumed, addressee x.2 = x.1

omit [DecidableEq P] [DecidableEq M] in
lemma OwnOnly.consume (hs : OwnOnly addressee s) (hm : addressee m = p) :
    OwnOnly addressee (consume last p m s) := by
  intro x hx
  rcases List.mem_append.mp hx with hx | hx
  · exact hs x hx
  · rw [List.mem_singleton.mp hx]
    exact hm

omit [DecidableEq M] in
lemma OwnOnly.loopTop (hs : OwnOnly addressee s) (p : P) :
    OwnOnly addressee (loopTop addressee last p s) := by
  unfold Mailbox.loopTop
  split
  · exact hs
  · next hpop => exact OwnOnly.consume hs (by simpa using (popFirst_eq_some hpop).1)

theorem ownOnly_step {e : Event P M} (hs : OwnOnly addressee s)
    (h : step addressee last s e = some s') : OwnOnly addressee s' := by
  obtain ⟨m, -, rfl⟩ | ⟨p, -, -, rfl⟩ | ⟨p, m, queue, -, hq, hp, rfl⟩ | ⟨p, -, hp, rfl⟩ |
    ⟨p, m, -, hp, rfl⟩ | ⟨p, -, hp, rfl⟩ | ⟨p, -, hp, rfl⟩ := step_cases h
  · exact hs
  · exact OwnOnly.loopTop hs p
  · exact hs
  · exact OwnOnly.loopTop (s := s.without p .waiting) hs p
  · unfold receive
    split
    · next hm => exact OwnOnly.consume (s := s.without p (.holding m)) hs hm
    · exact OwnOnly.loopTop
        (s := { s.without p (.holding m) with buffer := s.buffer ++ [m] }) hs p
  · exact OwnOnly.loopTop (s := s.without p .busy) hs p
  · exact hs

/-! ## Messages are not handed round for ever -/

/-- How far a party is from waiting. -/
def Phase.weight : Phase M → ℕ
  | .holding _ => 3
  | .busy => 1
  | _ => 0

/-- A message costs less in a party's hands than in the queue, less in the buffer than in the hands
that put it there, and less still once its own party is at work on it. -/
def State.weight (s : State P M) : ℕ :=
  4 * s.queue.length + 2 * s.buffer.length + (s.parties.map fun x => x.2.weight).sum

/-- A party's step that moves a message or ends a party's work.  Being told that the queue has
nothing is one when there is something in the buffer. -/
def Moves (addressee : M → P) (s : State P M) : Event P M → Prop
  | .put _ | .join _ => False
  | .take p => s.queue ≠ [] ∧ (p, .waiting) ∈ s.parties
  | .timeOut p => (p, .waiting) ∈ s.parties ∧ ∃ m ∈ s.buffer, addressee m = p
  | .resume p m => (p, .holding m) ∈ s.parties
  | .finish p | .leave p => (p, .busy) ∈ s.parties

lemma weight_without (h : (p, phase) ∈ s.parties) :
    s.weight = (s.without p phase).weight + phase.weight := by
  have hsum := ((List.perm_cons_erase h).map fun x => x.2.weight).sum_eq
  simp only [List.map_cons, List.sum_cons] at hsum
  simp only [State.weight, State.without, hsum]
  omega

omit [DecidableEq P] [DecidableEq M] in
@[simp] lemma weight_enter (s : State P M) (p : P) (phase : Phase M) :
    (s.enter p phase).weight = s.weight + phase.weight := by
  simp only [State.weight, State.enter, List.map_cons, List.sum_cons]
  omega

omit [DecidableEq P] [DecidableEq M] in
lemma weight_putBack (s : State P M) (m : M) :
    State.weight { s with buffer := s.buffer ++ [m] } = s.weight + 2 := by
  simp only [State.weight, List.length_append, List.length_singleton]
  omega

variable (last) in
omit [DecidableEq P] [DecidableEq M] in
lemma weight_consume_le (s : State P M) (p : P) (m : M) :
    (consume last p m s).weight ≤ s.weight + 1 := by
  have hafter : (if last m then Phase.gone else .busy : Phase M).weight ≤ 1 := by
    split <;> simp [Phase.weight]
  unfold consume
  rw [weight_enter]
  exact Nat.add_le_add_left hafter _

variable (addressee last) in
omit [DecidableEq M] in
lemma weight_loopTop (s : State P M) (p : P) :
    (loopTop addressee last p s).weight ≤ s.weight ∧
      ((∃ m ∈ s.buffer, addressee m = p) → (loopTop addressee last p s).weight < s.weight) := by
  unfold loopTop
  split
  · next hpop =>
    refine ⟨by simp [Phase.weight], fun ⟨m, hm, hp⟩ => ?_⟩
    have := popFirst_eq_none.mp hpop m hm
    exact absurd hp (by simpa using this)
  · next m rest hpop =>
    have hlength := (popFirst_eq_some hpop).2.length_eq
    have hle := weight_consume_le last { s with buffer := rest } p m
    rw [List.length_cons] at hlength
    simp only [State.weight] at hle ⊢
    omega

/-- However the parties are scheduled, messages are not handed round for ever. -/
theorem weight_step {e : Event P M} (h : step addressee last s e = some s')
    (he : Moves addressee s e) : s'.weight < s.weight := by
  obtain ⟨m, rfl, -⟩ | ⟨p, rfl, -, -⟩ | ⟨p, m, queue, rfl, hq, hp, rfl⟩ | ⟨p, rfl, hp, rfl⟩ |
    ⟨p, m, rfl, hp, rfl⟩ | ⟨p, rfl, hp, rfl⟩ | ⟨p, rfl, hp, rfl⟩ := step_cases h
  · exact he.elim
  · exact he.elim
  · have hw := weight_without hp
    simp only [weight_enter]
    simp only [State.weight, State.without, Phase.weight, hq, List.length_cons] at hw ⊢
    omega
  · have hw := weight_without hp
    have hlt := (weight_loopTop addressee last (s.without p .waiting) p).2
      he.2
    simp only [Phase.weight] at hw
    omega
  · have hw := weight_without hp
    simp only [Phase.weight] at hw
    unfold receive
    split
    · have := weight_consume_le last (s.without p (.holding m)) p m
      omega
    · -- put back for another party: the step may still take up one of its own
      have hle := (weight_loopTop addressee last
        { s.without p (.holding m) with buffer := (s.without p (.holding m)).buffer ++ [m] } p).1
      rw [weight_putBack] at hle
      exact Nat.lt_of_le_of_lt hle (by omega)
  · have hw := weight_without hp
    have hle := (weight_loopTop addressee last (s.without p .busy) p).1
    simp only [Phase.weight] at hw
    omega
  · have hw := weight_without hp
    simp only [weight_enter, Phase.weight] at hw ⊢
    omega

/-- Nothing moves any more. -/
def Quiet (addressee : M → P) (s : State P M) : Prop := ∀ e, ¬ Moves addressee s e

omit [DecidableEq P] [DecidableEq M] in
/-- Where nothing moves any more, what is left is for parties that read no more. -/
theorem gone_of_quiet (hs : Quiet addressee s) (hm : m ∈ s.unread)
    (hp : (addressee m, phase) ∈ s.parties) : phase = .gone := by
  cases phase with
  | waiting =>
    rcases List.mem_append.mp hm with hm | hm
    · rcases List.mem_append.mp hm with hm | hm
      · exact absurd ⟨List.ne_nil_of_mem hm, hp⟩ (hs (.take (addressee m)))
      · exact absurd ⟨hp, m, hm, rfl⟩ (hs (.timeOut (addressee m)))
    · obtain ⟨⟨p, phase⟩, hx, hhand⟩ := List.mem_filterMap.mp hm
      cases phase <;> cases hhand
      exact absurd hx (hs (.resume p m))
  | holding m' => exact absurd hp (hs (.resume (addressee m) m'))
  | busy => exact absurd hp (hs (.finish (addressee m)))
  | gone => rfl

end Steps

end Mailbox
