import GoTasks.Dispatch

/-!
# Observed runs

A run asks its surroundings for everything it cannot do itself. Here the surroundings are
arbitrary: every request is answered from a world of some type, and the answer may change the
world. An observed run also lists its requests in order, each command with its answer.

The list is an output. A run cannot look at it, and nothing is ever taken back from it, so it
grows by concatenation. Observing changes nothing else: the `forget` lemmas give back the value
and the world of the run that nobody observed. They are stated for all surroundings whose answers
come with a list, because a log may be listed as a whole or only as far as it is kept.
-/

namespace GoTasks

/-- A command that was handed to the runner, with the runner's answer. -/
structure Call where
  command : Command
  answer : Except StartError Completion

/-- Whether the command of a call was started and succeeded. -/
def Call.succeeded (call : Call) : Bool :=
  match call.answer with
  | .ok completion => completion.succeeded
  | .error _ => false

/-- One thing that a run asks of its surroundings. -/
inductive Deed where
  | ran (call : Call)
  | printed (text : String)
  | complained (text : String)
  | logged (event : LogEvent)
  | wroteUsage (text : String)
  | flushedUsage
  | loadedProject
  | tookEnvironment
  | readClock
  | readFile (path : Path)
  | askedGit (directory : Path) (arguments : List String)

namespace Deed

/-- The call that a deed is, if it is one. -/
def call? : Deed → Option Call
  | ran call => some call
  | _ => none

/-- Whether a deed is the loading of a project. -/
def isLoad : Deed → Bool
  | loadedProject => true
  | _ => false

/-- Whether a deed offers something to the writer of the usage. -/
def isUsage : Deed → Bool
  | wroteUsage _ | flushedUsage => true
  | _ => false

/-- Whether a deed is one of finding a plan: all that it may do is look and log. -/
def isInquiry : Deed → Bool
  | tookEnvironment | readClock | readFile _ | askedGit .. | logged _ => true
  | _ => false

/-- Looking and logging call nothing, load nothing and leave the usage alone. -/
theorem call?_of_isInquiry {d : Deed} (h : d.isInquiry) : d.call? = none := by
  cases d with
  | ran call => cases h
  | _ => rfl

end Deed

/-- What an observed run came to. -/
structure Observation (σ α : Type) where
  value : α
  world : σ
  deeds : List Deed

namespace Observation

variable {σ α : Type}

/-- The calls of a run, in order. -/
def calls (seen : Observation σ α) : List Call :=
  seen.deeds.filterMap Deed.call?

def loads (seen : Observation σ α) : Nat :=
  seen.deeds.countP Deed.isLoad

end Observation

/-- A computation in a world of type `σ` that lists what it asks of it. -/
def Observed (σ α : Type) : Type :=
  σ → Observation σ α

namespace Observed

variable {σ α β : Type}

/-- Observe a computation from a world on. -/
def observe (x : Observed σ α) (w : σ) : Observation σ α :=
  x w

instance : Monad (Observed σ) where
  pure a := fun w => ⟨a, w, []⟩
  bind x f := fun w =>
    let first := x w
    let rest := f first.value first.world
    ⟨rest.value, rest.world, first.deeds ++ rest.deeds⟩

/-- A request, answered by the world and listed as what the answer makes of it. -/
def request (deed : α → Deed) (x : StateM σ α) : Observed σ α :=
  fun w => ⟨(x.run w).1, (x.run w).2, [deed (x.run w).1]⟩

/-- The computation without its list. -/
def forget (x : Observed σ α) : StateM σ α :=
  fun w => ((x.observe w).value, (x.observe w).world)

@[simp] theorem observe_pure (a : α) (w : σ) :
    (pure a : Observed σ α).observe w = ⟨a, w, []⟩ := rfl

@[simp] theorem observe_bind (x : Observed σ α) (f : α → Observed σ β) (w : σ) :
    (x >>= f).observe w =
      ⟨((f (x.observe w).value).observe (x.observe w).world).value,
        ((f (x.observe w).value).observe (x.observe w).world).world,
        (x.observe w).deeds ++ ((f (x.observe w).value).observe (x.observe w).world).deeds⟩ :=
  rfl

theorem calls_bind (x : Observed σ α) (f : α → Observed σ β) (w : σ) :
    ((x >>= f).observe w).calls = (x.observe w).calls ++
      ((f (x.observe w).value).observe (x.observe w).world).calls := by
  simp [Observation.calls]

@[simp] theorem observe_request (deed : α → Deed) (x : StateM σ α) (w : σ) :
    (request deed x).observe w = ⟨(x.run w).1, (x.run w).2, [deed (x.run w).1]⟩ := rfl

@[simp] theorem forget_bind (x : Observed σ α) (f : α → Observed σ β) :
    (x >>= f).forget = x.forget >>= fun a => (f a).forget := rfl

@[ext] theorem ext {x y : Observed σ α} (h : ∀ w, x.observe w = y.observe w) : x = y :=
  funext h

instance : LawfulMonad (Observed σ) := .mk' (Observed σ)
  (by
    intro α x
    ext w
    change (⟨(x w).value, (x w).world, (x w).deeds ++ []⟩ : Observation σ α) = x w
    rw [List.append_nil])
  (by
    intro α β a f
    ext w
    simp)
  (by
    intro α β γ x f g
    ext w
    simp)

/-- The value and the world of an observed run are those of the run that it observes. -/
theorem run_eq {x : Observed σ α} {y : StateM σ α} (h : x.forget = y) (w : σ) :
    y.run w = ((x.observe w).value, (x.observe w).world) := by
  rw [← h]
  rfl

/-- All that a computation does, from any world, has the property `p`. -/
def Only (p : Deed → Prop) (x : Observed σ α) : Prop :=
  ∀ w, ∀ d ∈ (x.observe w).deeds, p d

namespace Only

variable {p : Deed → Prop}

theorem pure (a : α) : Only p (Pure.pure a : Observed σ α) := by
  intro w d member
  exact absurd member List.not_mem_nil

theorem bind {x : Observed σ α} {f : α → Observed σ β} (first : Only p x)
    (rest : ∀ a, Only p (f a)) : Only p (x >>= f) := by
  intro w d member
  rw [observe_bind] at member
  rcases List.mem_append.mp member with early | late
  · exact first w d early
  · exact rest _ _ d late

theorem map {x : Observed σ α} (f : α → β) (h : Only p x) : Only p (f <$> x) :=
  h.bind fun a => pure (f a)

/-- A request is judged by the answers that it can get. -/
theorem request {deed : α → Deed} {x : StateM σ α} (h : ∀ w, p (deed (x.run w).1)) :
    Only p (request deed x) := by
  intro w d member
  rw [List.mem_singleton.mp member]
  exact h w

end Only
end Observed

/-! ## Surroundings under observation -/

section Surroundings

variable {σ : Type}

def Console.observed (console : Console (StateM σ)) : Console (Observed σ) where
  styled := console.styled
  out text := .request (fun _ => .printed text) (console.out text)
  err text := .request (fun _ => .complained text) (console.err text)
  log event := .request (fun _ => .logged event) (console.log event)

def Runner.observed (run : Runner (StateM σ)) : Runner (Observed σ) :=
  fun command => .request (fun answer => .ran ⟨command, answer⟩) (run command)

def Stamp.Source.observed (source : Stamp.Source (StateM σ)) : Stamp.Source (Observed σ) where
  now := .request (fun _ => .readClock) source.now
  readFile path := .request (fun _ => .readFile path) (source.readFile path)
  git directory arguments :=
    .request (fun _ => .askedGit directory arguments) (source.git directory arguments)

/-- Surroundings with every request listed. -/
def Surroundings.observed (s : Surroundings (StateM σ)) : Surroundings (Observed σ) where
  console := s.console.observed
  run := Runner.observed s.run
  stampSource := s.stampSource.observed
  writeUsage text := .request (fun _ => .wroteUsage text) (s.writeUsage text)
  flushUsage := .request (fun _ => .flushedUsage) s.flushUsage
  loadProject := .request (fun _ => .loadedProject) s.loadProject
  environment := .request (fun _ => .tookEnvironment) s.environment
  refusal := s.refusal

/-! ## Surroundings without their lists -/

def Console.forget (console : Console (Observed σ)) : Console (StateM σ) where
  styled := console.styled
  out text := (console.out text).forget
  err text := (console.err text).forget
  log event := (console.log event).forget

def Runner.forget (run : Runner (Observed σ)) : Runner (StateM σ) :=
  fun command => (run command).forget

def Stamp.Source.forget (source : Stamp.Source (Observed σ)) : Stamp.Source (StateM σ) where
  now := source.now.forget
  readFile path := (source.readFile path).forget
  git directory arguments := (source.git directory arguments).forget

def Surroundings.forget (s : Surroundings (Observed σ)) : Surroundings (StateM σ) where
  console := s.console.forget
  run := Runner.forget s.run
  stampSource := s.stampSource.forget
  writeUsage text := (s.writeUsage text).forget
  flushUsage := s.flushUsage.forget
  loadProject := s.loadProject.forget
  environment := s.environment.forget
  refusal := s.refusal

@[simp] theorem Surroundings.forget_observed (s : Surroundings (StateM σ)) :
    s.observed.forget = s := rfl

/-- A log that is listed as far as it is kept is, without its list, the log that is kept. -/
theorem Surroundings.forget_filtered (wanted : LogEvent → Bool) (s : Surroundings (Observed σ)) :
    (s.filtered wanted).forget = s.forget.filtered wanted := by
  have log (e : LogEvent) : (if wanted e then s.console.log e else pure ()).forget =
      if wanted e then (s.console.log e).forget else pure () := by
    split <;> rfl
  simp only [filtered, forget, Console.filtered, Console.forget, log]

end Surroundings
end GoTasks
