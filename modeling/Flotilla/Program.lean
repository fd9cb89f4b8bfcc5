/-!
# Programs

A program is a tree: it is done with a value, or it asks for one operation of an interface and
goes on with the reply. Who answers is not part of the program, so one program runs against any
answerer, and a statement about all answerers is an induction over the tree.
-/

namespace Flotilla

/-- Operations, each with the type of its reply. -/
structure Interface where
  Op : Type
  Reply : Op → Type

/-- A computation that asks for operations of an interface. -/
inductive Program (I : Interface) (α : Type) where
  | done (value : α)
  | ask (op : I.Op) (next : I.Reply op → Program I α)

namespace Program

variable {I J : Interface} {α β γ σ : Type}

def bind : Program I α → (α → Program I β) → Program I β
  | done a, f => f a
  | ask op next, f => ask op fun r => (next r).bind f

instance : Monad (Program I) where
  pure := done
  bind := bind

/-- The program that asks for one operation and returns the reply. -/
def request (op : I.Op) : Program I (I.Reply op) :=
  ask op done

def run (answer : (op : I.Op) → σ → I.Reply op × σ) : Program I α → σ → α × σ
  | done a, s => (a, s)
  | ask op next, s => (next (answer op s).1).run answer (answer op s).2

/-- Carry out a program by an answerer with effects. -/
def carryOut {m : Type → Type} [Monad m] (answer : (op : I.Op) → m (I.Reply op)) :
    Program I α → m α
  | done a => pure a
  | ask op next => do (next (← answer op)).carryOut answer

/-- Ask for the operations of one interface by programs over another. -/
def expand (f : (op : I.Op) → Program J (I.Reply op)) : Program I α → Program J α
  | done a => done a
  | ask op next => (f op).bind fun r => (next r).expand f

/-! ## Laws -/

@[simp] theorem pure_eq (a : α) : (pure a : Program I α) = done a := rfl

@[simp] theorem bind_eq (p : Program I α) (f : α → Program I β) : p >>= f = p.bind f := rfl

@[simp] theorem done_bind (a : α) (f : α → Program I β) : (done a).bind f = f a := rfl

@[simp] theorem ask_bind (op : I.Op) (next : I.Reply op → Program I α)
    (f : α → Program I β) : (ask op next).bind f = ask op fun r => (next r).bind f := rfl

theorem bind_assoc (p : Program I α) (f : α → Program I β) (g : β → Program I γ) :
    (p.bind f).bind g = p.bind fun a => (f a).bind g := by
  -- Both sides walk the same tree.
  induction p with
  | done a => rfl
  | ask op next ih => simp [ih]

@[simp] theorem run_done (answer : (op : I.Op) → σ → I.Reply op × σ) (a : α) (s : σ) :
    (done a : Program I α).run answer s = (a, s) := rfl

@[simp] theorem run_ask (answer : (op : I.Op) → σ → I.Reply op × σ) (op : I.Op)
    (next : I.Reply op → Program I α) (s : σ) :
    (ask op next).run answer s = (next (answer op s).1).run answer (answer op s).2 := rfl

theorem run_bind (answer : (op : I.Op) → σ → I.Reply op × σ) (p : Program I α)
    (f : α → Program I β) (s : σ) :
    (p.bind f).run answer s = (f (p.run answer s).1).run answer (p.run answer s).2 := by
  induction p generalizing s with
  | done a => rfl
  | ask op next ih => simp [ih]

end Program

end Flotilla
