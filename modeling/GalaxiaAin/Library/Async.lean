import Mathlib.Logic.Basic
import Mathlib.Tactic.Common

/-! Asynchronous functions over a transactional store. A program awaits one call
after another; every awaited call is answered by the environment, which may also
fail it. Connections are a stack of sessions, so a statement runs in the
transaction of the innermost client. -/
namespace GalaxiaAin.Library

/-- What a family of asynchronous functions runs against. A site labels the place
of a call, a fault is an error the environment may answer with, and a lock names
what a statement keeps to itself until its transaction ends. -/
structure Backend where
  Store : Type
  Context : Type
  initial : Context
  Lock : Type
  Remote : Type
  Reply : Remote → Type
  usual : ∀ r, Reply r
  Event : Type
  Error : Type
  aborted : Error
  Fault : Type
  raise : Fault → Error
  refuse : List Event → Event → Option Error
  Site : Type

variable {B : Backend} {α β ρ : Type}

/-- A statement reads the tables it sees and answers with its reply and the change
it makes; an error changes nothing. The change is decided when the statement runs
and reaches the committed tables with its transaction. -/
structure Stmt (B : Backend) (ρ : Type) where
  run : B.Context → B.Store → Except B.Error (ρ × (B.Store → B.Store))
  locks : B.Context → B.Store → List B.Lock := fun _ _ => []

namespace Stmt

/-- The change a statement makes. -/
def effect (q : Stmt B ρ) (c : B.Context) (s : B.Store) : B.Store → B.Store :=
  match q.run c s with
  | .ok (_, w) => w
  | .error _ => id

/-- The reply of a statement. -/
def reply (q : Stmt B ρ) (c : B.Context) (s : B.Store) : Except B.Error ρ :=
  match q.run c s with
  | .ok (r, _) => .ok r
  | .error e => .error e

/-- A statement that only reads. -/
def select (f : B.Context → B.Store → ρ) : Stmt B ρ := ⟨fun c s => .ok (f c s, id), fun _ _ => []⟩

/-- A statement that writes the same way whatever it finds. -/
def update (f : B.Context → B.Store → B.Store) (locks : B.Context → B.Store → List B.Lock := fun _ _ => []) :
    Stmt B Unit := ⟨fun c _ => .ok ((), f c), locks⟩

/-- A statement from what it reads, answers and changes. -/
def statement (f : B.Store → Except B.Error (ρ × (B.Store → B.Store))) : Stmt B ρ := ⟨fun _ s => f s, fun _ _ => []⟩

/-- A query that only reads; its parameters may be refused. -/
def selection (f : B.Store → Except B.Error ρ) : Stmt B ρ := statement fun s => (f s).map fun r => (r, id)

theorem reply_ok {q : Stmt B ρ} {c : B.Context} {s : B.Store} {r : ρ} {w : B.Store → B.Store}
    (h : q.run c s = .ok (r, w)) : q.reply c s = .ok r := by rw [reply, h]
theorem effect_ok {q : Stmt B ρ} {c : B.Context} {s : B.Store} {r : ρ} {w : B.Store → B.Store}
    (h : q.run c s = .ok (r, w)) : q.effect c s = w := by rw [effect, h]
theorem reply_error {q : Stmt B ρ} {c : B.Context} {s : B.Store} {e : B.Error}
    (h : q.run c s = .error e) : q.reply c s = .error e := by rw [reply, h]
theorem effect_error {q : Stmt B ρ} {c : B.Context} {s : B.Store} {e : B.Error}
    (h : q.run c s = .error e) : q.effect c s = id := by rw [effect, h]

@[simp] theorem reply_select (f : B.Context → B.Store → ρ) (c : B.Context) (s : B.Store) :
    (select f).reply c s = .ok (f c s) := rfl
@[simp] theorem effect_select (f : B.Context → B.Store → ρ) (c : B.Context) (s : B.Store) :
    (select f).effect c s = id := rfl
@[simp] theorem reply_update (f : B.Context → B.Store → B.Store) (k : B.Context → B.Store → List B.Lock)
    (c : B.Context) (s : B.Store) : (update f k).reply c s = .ok () := rfl
@[simp] theorem effect_update (f : B.Context → B.Store → B.Store) (k : B.Context → B.Store → List B.Lock)
    (c : B.Context) (s : B.Store) : (update f k).effect c s = f c := rfl

end Stmt

/-- One client's connection. The writes of an open transaction stay pending: they
are applied to the committed store by COMMIT, and its statements see them. An
aborted transaction keeps its locks until it is ended. -/
inductive Session (B : Backend) where
  | idle
  | active (context : B.Context) (locks : List B.Lock) (pending : B.Store → B.Store)
  | aborted (locks : List B.Lock)

namespace Session

def locks : Session B → List B.Lock
  | .idle => []
  | .active _ held _ => held
  | .aborted held => held

/-- A failed statement aborts the transaction it ran in. -/
def fail : Session B → Session B
  | .idle => .idle
  | x => .aborted x.locks

/-- Run a statement on a session: its own transaction when none is open. -/
def query (q : Stmt B ρ) : Session B → B.Store → Except B.Error ρ × B.Store × Session B
  | .idle, s => (q.reply B.initial s, q.effect B.initial s s, .idle)
  | .active c held p, s =>
    match q.reply c (p s) with
    | .ok r => (.ok r, s, .active c (q.locks c (p s) ++ held) (fun t => q.effect c (p s) (p t)))
    | .error e => (.error e, s, .aborted held)
  | .aborted held, s => (.error B.aborted, s, .aborted held)

/-- COMMIT of an aborted transaction rolls back without an error. -/
def commit : Session B → B.Store → B.Store
  | .active _ _ p, s => p s
  | _, s => s

def begin : Session B → Session B
  | .idle => .active B.initial [] id
  | x => x

def configure (f : B.Context → B.Context) : Session B → Session B
  | .active c held p => .active (f c) held p
  | x => x

end Session

/-- What a handler holds by itself: its clients, innermost first, and what it emitted. -/
structure Local (B : Backend) where
  sessions : List (Session B)
  out : List B.Event

namespace Local

def empty : Local B := ⟨[], []⟩

def top (l : Local B) : Session B := l.sessions.head?.getD .idle

def setTop (l : Local B) (x : Session B) : Local B := { l with sessions := x :: l.sessions.tail }

def locks (l : Local B) : List B.Lock := l.sessions.flatMap Session.locks

@[simp] theorem top_cons (x : Session B) (rest : List (Session B)) (out : List B.Event) :
    (Local.mk (x :: rest) out).top = x := rfl
@[simp] theorem setTop_cons (x y : Session B) (rest : List (Session B)) (out : List B.Event) :
    (Local.mk (x :: rest) out).setTop y = ⟨y :: rest, out⟩ := rfl

end Local

/-- A synchronous action of the running turn. -/
inductive Sync (B : Backend) where
  | release
  | emit (e : B.Event)

def Sync.exec : Sync B → Local B → Except B.Error Unit × Local B
  | .release, l => (.ok (), { l with sessions := l.sessions.tail })
  | .emit e, l =>
    match B.refuse l.out e with
    | none => (.ok (), { l with out := l.out ++ [e] })
    | some err => (.error err, l)

/-- An awaited call. -/
inductive Call (B : Backend) : Type → Type 1 where
  | connect : Call B Unit
  | begin : Call B Unit
  | commit : Call B Unit
  | rollback : Call B Unit
  | configure (f : B.Context → B.Context) : Call B Unit
  | query {ρ : Type} (q : Stmt B ρ) : Call B ρ
  | pool {ρ : Type} (q : Stmt B ρ) : Call B ρ
  | remote (r : B.Remote) : Call B (B.Reply r)

/-- How the environment answers: it serves the call, with these replies of the
remote services, or fails it. -/
inductive Answer (B : Backend) where
  | done (reply : ∀ r, B.Reply r)
  | fault (f : B.Fault)

def Answer.Faulty : Answer B → Prop
  | .fault _ => True
  | .done _ => False

instance (a : Answer B) : Decidable a.Faulty :=
  match a with
  | .fault _ => isTrue trivial
  | .done _ => isFalse id

namespace Call

/-- The locks a call must find free. -/
def wants : Call B ρ → B.Store → Local B → List B.Lock
  | .query q, s, l =>
    match l.top with
    | .idle => q.locks B.initial s
    | .active c _ p => q.locks c (p s)
    | .aborted _ => []
  | .pool q, s, _ => q.locks B.initial s
  | _, _, _ => []

/-- A served call. -/
def serve (reply : ∀ r, B.Reply r) : Call B ρ → B.Store → Local B → Except B.Error ρ × B.Store × Local B
  | .connect, s, l => (.ok (), s, { l with sessions := .idle :: l.sessions })
  | .begin, s, l =>
    match l.top with
    | .aborted _ => (.error B.aborted, s, l)
    | x => (.ok (), s, l.setTop x.begin)
  | .commit, s, l => (.ok (), l.top.commit s, l.setTop .idle)
  | .rollback, s, l => (.ok (), s, l.setTop .idle)
  | .configure f, s, l =>
    match l.top with
    | .aborted _ => (.error B.aborted, s, l)
    | x => (.ok (), s, l.setTop (x.configure f))
  | .query q, s, l => ((l.top.query q s).1, (l.top.query q s).2.1, l.setTop (l.top.query q s).2.2)
  | .pool q, s, l => (q.reply B.initial s, q.effect B.initial s s, l)
  | .remote r, s, l => (.ok (reply r), s, l)

/-- What a failed call leaves: a transaction whose COMMIT or ROLLBACK fails is over. -/
def failed : Call B ρ → Local B → Local B
  | .begin, l => l.setTop l.top.fail
  | .commit, l => l.setTop .idle
  | .rollback, l => l.setTop .idle
  | .configure _, l => l.setTop l.top.fail
  | .query _, l => l.setTop l.top.fail
  | _, l => l

/-- Execute a call with the environment's answer. -/
def exec (c : Call B ρ) : Answer B → B.Store → Local B → Except B.Error ρ × B.Store × Local B
  | .done reply, s, l => c.serve reply s l
  | .fault f, s, l => (.error (B.raise f), s, c.failed l)

end Call

/-- An asynchronous function: its synchronous actions, the calls it awaits, and
what it does with each answer. -/
inductive Async (B : Backend) (α : Type) : Type 1 where
  | ret (a : α)
  | raise (e : B.Error)
  | sync (c : Sync B) (k : Except B.Error Unit → Async B α)
  | call {ρ : Type} (σ : B.Site) (c : Call B ρ) (k : Except B.Error ρ → Async B α)

namespace Async

def bind : Async B α → (α → Async B β) → Async B β
  | .ret a, f => f a
  | .raise e, _ => .raise e
  | .sync c k, f => .sync c (fun r => (k r).bind f)
  | .call σ c k, f => .call σ c (fun r => (k r).bind f)

def handle : Async B α → (B.Error → Async B α) → Async B α
  | .ret a, _ => .ret a
  | .raise e, h => h e
  | .sync c k, h => .sync c (fun r => (k r).handle h)
  | .call σ c k, h => .call σ c (fun r => (k r).handle h)

instance : Monad (Async B) where
  pure := .ret
  bind := bind

instance : MonadExceptOf B.Error (Async B) where
  throw := .raise
  tryCatch := handle

/-- Continue with a reply, or raise the error it carries. -/
def ofExcept : Except B.Error α → Async B α
  | .ok a => .ret a
  | .error e => .raise e

def await (σ : B.Site) (c : Call B ρ) : Async B ρ := .call σ c ofExcept

def emit (e : B.Event) : Async B Unit := .sync (.emit e) ofExcept

/-- Settle a program: its outcome as a value. -/
def attempt (p : Async B α) : Async B (Except B.Error α) :=
  (p >>= fun a => pure (.ok a)).handle (fun e => pure (.error e))

/-- `try p finally { client.release() }`. -/
def releasing (p : Async B α) : Async B α := do
  let r ← p.attempt
  Async.sync .release ofExcept
  ofExcept r

/-- `const client = await pool.connect(); try { p } finally { client.release() }`. -/
def withClient (σ : B.Site) (p : Async B α) : Async B α := do
  await σ .connect
  p.releasing

/-- `try p catch (error) { await client.query('ROLLBACK'); throw error }`. -/
def orRollback (σ : B.Site) (p : Async B α) : Async B α :=
  p.handle fun e => do
    await σ .rollback
    .raise e

def query (σ : B.Site) (q : Stmt B ρ) : Async B ρ := await σ (.query q)

end Async

/-- `if (condition) { p }`. -/
def onlyIf (condition : Prop) [Decidable condition] (p : Async B Unit) : Async B Unit :=
  if condition then p else pure ()

end GalaxiaAin.Library
