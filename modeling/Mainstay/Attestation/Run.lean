import Mainstay.Attestation.Steps

/-!
# Run — the ticks of the service's loop

`Run` waits `attestDelay`, runs one tick and loops; a tick that panics ends the goroutine. A run
from `s` under a list of environments is the list of ticks the loop makes, one per environment,
each recording the service before it, the calls it made and the service after it.

Statements about runs quantify over every list of environments, that is over every answer the
collaborators may give, failures included. `run_inv` is the one induction over runs: an
invariant of the history and the current state that every tick preserves holds before every
tick. `run_segment` is its form for a stretch of consecutive ticks.
-/

namespace Mainstay

namespace AttestService

/-- One tick of a run: the service before it, the calls it made and the service after it. -/
structure Tick where
  pre : AttestService
  calls : List Call
  post : AttestService
  deriving DecidableEq, Repr

variable (txHash : MsgTx → Hash)

/-- The ticks of `Run`'s loop from `s`, one per environment, up to the first panic. -/
def run (s : AttestService) : List Env → List Tick
  | [] => []
  | env :: envs =>
    match s.runStep txHash env with
    | none => []
    | some (s', calls) => ⟨s, calls, s'⟩ :: run s' envs

variable {txHash}

theorem run_cons {s : AttestService} {env : Env} {envs : List Env} {t : Tick} {rest : List Tick}
    (h : run txHash s (env :: envs) = t :: rest) :
    t.pre = s ∧ s.runStep txHash env = some (t.post, t.calls) ∧ rest = run txHash t.post envs := by
  simp only [run] at h
  split at h
  · cases h
  · cases h; exact ⟨rfl, ‹_›, rfl⟩

/-- The one induction over runs: an invariant of the history and the current state that every
tick preserves holds before every tick of a run. -/
theorem run_inv (Inv : List Tick → AttestService → Prop)
    (hstep : ∀ hist t env, Inv hist t.pre → t.pre.runStep txHash env = some (t.post, t.calls) →
      Inv (hist ++ [t]) t.post) :
    ∀ (envs : List Env) (hist : List Tick) (s : AttestService), Inv hist s →
      ∀ pre t post, run txHash s envs = pre ++ t :: post → Inv (hist ++ pre) t.pre := by
  intro envs
  induction envs with
  | nil => intro _ _ _ pre t post h; simp [run] at h
  | cons env envs ih =>
    intro hist s hs pre t post h
    cases pre with
    | nil =>
      obtain ⟨rfl, -, -⟩ := run_cons h
      simpa using hs
    | cons r pre =>
      obtain ⟨rfl, hr, hrest⟩ := run_cons h
      have := ih (hist ++ [r]) r.post (hstep hist r env hs hr) pre t post hrest.symm
      simpa using this

/-- Every tick of a run is a turn of the loop. -/
theorem run_step {s : AttestService} {envs : List Env} {t : Tick} (h : t ∈ run txHash s envs) :
    ∃ env, t.pre.runStep txHash env = some (t.post, t.calls) := by
  induction envs generalizing s with
  | nil => simp [run] at h
  | cons env envs ih =>
    simp only [run] at h
    split at h
    · simp at h
    · rcases List.mem_cons.1 h with rfl | h
      · exact ⟨env, ‹_›⟩
      · exact ih h

/-- A run's first tick starts where the run starts, and its later ticks are a run from the
state after it. -/
theorem run_head {s : AttestService} {envs : List Env} {t : Tick} {rest : List Tick}
    (h : run txHash s envs = t :: rest) : t.pre = s ∧ ∃ envs', run txHash t.post envs' = rest := by
  cases envs with
  | nil => simp [run] at h
  | cons env envs => exact ⟨(run_cons h).1, envs, (run_cons h).2.2.symm⟩

/-- Every suffix of a run is a run. -/
theorem run_suffix {s : AttestService} {envs : List Env} {pre rest : List Tick}
    (h : run txHash s envs = pre ++ rest) : ∃ s' envs', run txHash s' envs' = rest := by
  induction pre generalizing s envs with
  | nil => exact ⟨s, envs, h⟩
  | cons t pre ih =>
    obtain ⟨-, envs', h'⟩ := run_head h
    exact ih h'

/-- The invariant of `run_inv` also holds after every tick. -/
theorem run_inv_post (Inv : List Tick → AttestService → Prop)
    (hstep : ∀ hist t env, Inv hist t.pre → t.pre.runStep txHash env = some (t.post, t.calls) →
      Inv (hist ++ [t]) t.post)
    {envs : List Env} {hist : List Tick} {s : AttestService} (hs : Inv hist s) {pre : List Tick}
    {t : Tick} {post : List Tick} (h : run txHash s envs = pre ++ t :: post) :
    Inv (hist ++ pre ++ [t]) t.post := by
  obtain ⟨env, he⟩ := run_step (h ▸ List.mem_append_right pre (List.mem_cons_self t post))
  simpa using hstep _ t env (run_inv Inv hstep envs hist s hs pre t post h) he

/-- The ticks after a tick are the run from the state it ends in, over the environments left. -/
theorem run_drop {s : AttestService} {envs : List Env} {pre : List Tick} {t : Tick}
    {post : List Tick} (h : run txHash s envs = pre ++ t :: post) :
    post = run txHash t.post (envs.drop (pre.length + 1)) := by
  induction pre generalizing s envs with
  | nil =>
    cases envs with
    | nil => simp [run] at h
    | cons env envs => simpa using (run_cons h).2.2
  | cons r pre ih =>
    cases envs with
    | nil => simp [run] at h
    | cons env envs => simpa using ih (run_cons h).2.2.symm

/-- The state before a tick is the state after the tick before it, or the start. -/
theorem run_pre {s : AttestService} {envs : List Env} {pre : List Tick} {t : Tick}
    {post : List Tick} (h : run txHash s envs = pre ++ t :: post) :
    t.pre = (pre.getLast?.map Tick.post).getD s := by
  have := run_inv (fun hist x => x = (hist.getLast?.map Tick.post).getD s)
    (fun hist t _ _ _ => by simp) envs [] s rfl pre t post h
  simpa using this

/-- A tick that does not start where the run starts has a tick before it, which ends where it
starts. -/
theorem run_prev {s : AttestService} {envs : List Env} {pre : List Tick} {t : Tick}
    {post : List Tick} (h : run txHash s envs = pre ++ t :: post) (hs : t.pre ≠ s) :
    ∃ pre' t₁, pre = pre' ++ [t₁] ∧ t₁.post = t.pre ∧
      run txHash s envs = pre' ++ t₁ :: t :: post := by
  rcases List.eq_nil_or_concat pre with rfl | ⟨pre', t₁, rfl⟩
  · exact absurd (by simpa using run_pre h) hs
  · exact ⟨pre', t₁, List.concat_eq_append _ _, by simpa using (run_pre h).symm, by simpa using h⟩

/-- A property that holds after a tick and that a stretch of ticks preserves holds before the
tick that follows the stretch. -/
theorem run_segment (P : AttestService → Prop) {s : AttestService} {envs : List Env}
    {pre mid post : List Tick} {t t₂ : Tick} (h : run txHash s envs = pre ++ t :: mid ++ t₂ :: post)
    (ht : P t.post) (hmid : ∀ m ∈ mid, P m.pre → P m.post) : P t₂.pre := by
  obtain ⟨s', envs', h'⟩ := run_suffix (show run txHash s envs = pre ++ t :: (mid ++ t₂ :: post)
    by simpa using h)
  clear h
  induction mid generalizing t s' envs' with
  | nil =>
    obtain ⟨-, envs'', h''⟩ := run_head h'
    exact (run_head (t := t₂) (by simpa using h'')).1 ▸ ht
  | cons m mid ih =>
    obtain ⟨-, envs'', h''⟩ := run_head h'
    have hm : m.pre = t.post := (run_head (t := m) (by simpa using h'')).1
    exact ih (hmid m (.head _) (hm ▸ ht)) (fun m' hm' => hmid m' (.tail _ hm')) _ _
      (by simpa using h'')

end AttestService

end Mainstay
