import TraceHeaders.Text.LowerCase
import TraceHeaders.Text.Quoted

namespace TraceHeaders

inductive Level where
  | error
  | warn
  | info
  | debug
  | trace
  deriving Repr, DecidableEq

namespace Level

instance : Inhabited Level := ⟨warn⟩

def name : Level → Text
  | error => "ERROR".toList
  | warn => "WARN".toList
  | info => "INFO".toList
  | debug => "DEBUG".toList
  | trace => "TRACE".toList

def rank : Level → Nat
  | error => 0
  | warn => 1
  | info => 2
  | debug => 3
  | trace => 4

def admits (threshold level : Level) : Bool := level.rank ≤ threshold.rank

structure Unknown where
  text : Text
  deriving Repr, DecidableEq

def Unknown.message (u : Unknown) : Text :=
  "Invalid log level: '".toList ++ u.text ++
    "'. Valid levels are: error, warn, info, debug, trace".toList

def ofText (t : Text) : Except Unknown Level :=
  match [error, warn, info, debug, trace].find? fun l => Text.lower l.name = Text.lower t with
  | some l => .ok l
  | none => .error ⟨t⟩

def filterName (l : Level) : Text := Text.lower l.name

end Level

inductive FieldText where
  | quoted (t : Text)
  | plain (t : Text)
  deriving Repr, DecidableEq

def FieldText.render : FieldText → Text
  | quoted t => Text.quoted t
  | plain t => t

abbrev Field := Text × FieldText

def renderFields (fields : List Field) : Text :=
  [' '].intercalate (fields.map fun f => f.1 ++ '=' :: f.2.render)

structure Span where
  name : Text
  fields : List Field := []
  deriving Repr, DecidableEq

def Span.render (s : Span) : Text :=
  s.name ++ (if s.fields.isEmpty then [] else '\x7b' :: renderFields s.fields ++ ['\x7d'])

structure Event where
  level : Level
  message : Option Text
  fields : List Field := []
  spans : List Span := []
  deriving Repr, DecidableEq

namespace Event

def messageChar (c : Char) : Text :=
  if c = '\x1b' ∨ c = '\x07' ∨ c = '\x08' ∨ c = '\x0c' ∨ c = '\x7f' then
    ['\\', 'x'] ++ Text.hexPadded 2 c.toNat
  else if 0x80 ≤ c.toNat ∧ c.toNat ≤ 0x9F then
    ['\\', 'u', '\x7b'] ++ Text.hexPlain c.toNat ++ ['\x7d']
  else [c]

def body (e : Event) : Text :=
  [' '].intercalate
    ((e.message.map (·.flatMap messageChar)).toList ++
      if e.fields.isEmpty then [] else [renderFields e.fields])

def render (e : Event) : Text :=
  "DD_PROPAGATION | ".toList ++ e.level.name ++ " | ".toList ++
    e.spans.flatMap (fun s => s.render ++ ": ".toList) ++ e.body

def renderAll (threshold : Level) (events : List Event) : Text :=
  (events.filter fun e => threshold.admits e.level).flatMap fun e => e.render ++ ['\n']

end Event

structure Logged (α : Type) where
  value : α
  events : List Event := []
  deriving Repr, DecidableEq

namespace Logged

variable {α β : Type}

instance : Monad Logged where
  pure a := ⟨a, []⟩
  bind x f := ⟨(f x.value).value, x.events ++ (f x.value).events⟩

@[simp] theorem value_pure (a : α) : (pure a : Logged α).value = a := rfl

@[simp] theorem value_bind (x : Logged α) (f : α → Logged β) :
    (x >>= f).value = (f x.value).value := rfl

@[simp] theorem value_map (g : α → β) (x : Logged α) : (g <$> x).value = g x.value := rfl

theorem ext_parts {x y : Logged α} (hv : x.value = y.value) (he : x.events = y.events) : x = y := by
  cases x; cases y; simp_all

instance : LawfulMonad Logged := by
  refine LawfulMonad.mk' Logged ?_ ?_ ?_
  · intro α x
    exact ext_parts rfl (List.append_nil _)
  · intro α β a f
    exact ext_parts rfl (List.nil_append _)
  · intro α β γ x f g
    exact ext_parts rfl (List.append_assoc ..)

@[simp] theorem value_mapM (f : α → Logged β) (xs : List α) :
    (xs.mapM f).value = xs.map fun x => (f x).value := by
  induction xs with
  | nil => rfl
  | cons x xs ih => simp [List.mapM_cons, ih]

def note (level : Level) (message : Text) : Logged Unit := ⟨(), [⟨level, some message, [], []⟩]⟩

def error : Text → Logged Unit := note .error

def warn : Text → Logged Unit := note .warn

def debug : Text → Logged Unit := note .debug

end Logged

structure Subscriber where
  threshold : Option Level := none
  deriving Repr, DecidableEq

namespace Subscriber

inductive InstallFault where
  | alreadyInstalled
  deriving Repr, DecidableEq

def InstallFault.message : InstallFault → Text
  | alreadyInstalled =>
    ("setting default subscriber failed: ".toList ++
      "a global default trace dispatcher has already been set".toList)

def shown (s : Subscriber) (events : List Event) : Text :=
  match s.threshold with
  | some threshold => Event.renderAll threshold events
  | none => []

def install (s : Subscriber) (level : Level) : Except InstallFault (Subscriber × List Event) :=
  match s.threshold with
  | some _ => .error .alreadyInstalled
  | none =>
    .ok (⟨some level⟩,
      [⟨.debug, some ("Logging subsystem enabled at ".toList ++ level.name), [], []⟩])

end Subscriber

end TraceHeaders
