import Folio.Page.Embed
import Folio.Page.Image
import Folio.Variable

namespace Folio

/-!
# Notices

Publishing goes on where a part of a page cannot be done; what was left out is reported.  Notices
are values, collected beside the result of a step, so that a step stays a function of its arguments.
-/

/-- Something that a page's author should know. -/
inductive Notice where
  | image (warning : ImageWarning)
  /-- A placeholder was dropped. -/
  | embed (error : EmbedError)
  /-- A code block was left as it was. -/
  | highlight (language : String) (error : HighlightError)
  /-- A token with an unknown name was left as it was. -/
  | unknownVariable (name : String) (offset : Nat)
  /-- A hook broke down, and the page with it. -/
  | brokenPage
  /-- A page of a site could not be read. -/
  | unrendered (path reason : String)
  /-- A page of a site could not be written. -/
  | unwritten (page reason : String)
  deriving DecidableEq

inductive NoticeLevel where
  | warning
  | error
  deriving DecidableEq

namespace Notice

def level : Notice → NoticeLevel
  | brokenPage => .error
  | unrendered _ _ => .error
  | unwritten _ _ => .error
  | _ => .warning

def message : Notice → String
  | image w => w.message
  | embed e => "Failed to embed content: " ++ e.message
  | highlight language e =>
    "Failed to highlight " ++ language ++ " code block: " ++ e.message
  | unknownVariable name offset =>
    "Unknown variable '%" ++ name ++ "%' at offset " ++ toString offset ++ ", left as is"
  | brokenPage => "Panic during page processing: Any \x7b .. \x7d"
  | unrendered path reason => "Failed to render " ++ path ++ ": " ++ reason
  | unwritten page reason => "Failed to write " ++ page ++ ": " ++ reason

end Notice

/-- A value, and what there was to report while it was made. -/
structure Noted (α : Type) where
  value : α
  notices : List Notice := []

namespace Noted

instance : Monad Noted where
  pure a := ⟨a, []⟩
  bind x f :=
    let y := f x.value
    ⟨y.value, x.notices ++ y.notices⟩

@[simp] theorem value_pure {α : Type} (a : α) : (pure a : Noted α).value = a := rfl

@[simp] theorem notices_pure {α : Type} (a : α) : (pure a : Noted α).notices = [] := rfl

theorem bind_eq {α β : Type} (x : Noted α) (f : α → Noted β) :
    x >>= f = ⟨(f x.value).value, x.notices ++ (f x.value).notices⟩ := rfl

@[simp] theorem value_bind {α β : Type} (x : Noted α) (f : α → Noted β) :
    (x >>= f).value = (f x.value).value := rfl

@[simp] theorem notices_bind {α β : Type} (x : Noted α) (f : α → Noted β) :
    (x >>= f).notices = x.notices ++ (f x.value).notices := rfl

end Noted

/-- Substitute the variables of a text and report the unknown names. -/
def Variables.substitute (vars : Variables) (text : String) : Noted String :=
  let r := vars.apply text
  ⟨String.ofList r.text, r.unknown.map fun u => .unknownVariable u.1 u.2⟩

end Folio
