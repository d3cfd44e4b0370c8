import Folio.Markup.Construction.Foreign

namespace Folio
namespace Markup
namespace Construction

/-!
# Rules for the page as a whole

The parts before the head and after the body, pages made of frames, and the loop that reads a page:
the next tokens are read as the innermost open element asks, and each is given to the rules that
apply until one of them is done with it.
-/

/-- Public identifiers, in small letters, of pages that are read as old pages were. -/
def oldPublicIds : List String :=
  ["-//w3o//dtd w3 html strict 3.0//en//", "-/w3c/dtd html 4.0 transitional/en", "html"]

/-- Beginnings, in small letters, of such public identifiers. -/
def oldBeginnings : List String :=
  ["+//silmaril//dtd html pro v0r11 19970101//", "-//as//dtd html 3.0 aswedit + extensions//",
    "-//advasoft ltd//dtd html 3.0 aswedit + extensions//", "-//ietf//dtd html 2.0 level 1//",
    "-//ietf//dtd html 2.0 level 2//", "-//ietf//dtd html 2.0 strict level 1//",
    "-//ietf//dtd html 2.0 strict level 2//", "-//ietf//dtd html 2.0 strict//",
    "-//ietf//dtd html 2.0//", "-//ietf//dtd html 2.1e//", "-//ietf//dtd html 3.0//",
    "-//ietf//dtd html 3.2 final//", "-//ietf//dtd html 3.2//", "-//ietf//dtd html 3//",
    "-//ietf//dtd html level 0//", "-//ietf//dtd html level 1//", "-//ietf//dtd html level 2//",
    "-//ietf//dtd html level 3//", "-//ietf//dtd html strict level 0//",
    "-//ietf//dtd html strict level 1//", "-//ietf//dtd html strict level 2//",
    "-//ietf//dtd html strict level 3//", "-//ietf//dtd html strict//", "-//ietf//dtd html//",
    "-//metrius//dtd metrius presentational//",
    "-//microsoft//dtd internet explorer 2.0 html strict//",
    "-//microsoft//dtd internet explorer 2.0 html//",
    "-//microsoft//dtd internet explorer 2.0 tables//",
    "-//microsoft//dtd internet explorer 3.0 html strict//",
    "-//microsoft//dtd internet explorer 3.0 html//",
    "-//microsoft//dtd internet explorer 3.0 tables//", "-//netscape comm. corp.//dtd html//",
    "-//netscape comm. corp.//dtd strict html//", "-//o'reilly and associates//dtd html 2.0//",
    "-//o'reilly and associates//dtd html extended 1.0//",
    "-//o'reilly and associates//dtd html extended relaxed 1.0//",
    "-//sq//dtd html 2.0 hotmetal + extensions//",
    "-//softquad software//dtd hotmetal pro 6.0::19990601::extensions to html 4.0//",
    "-//softquad//dtd hotmetal pro 4.0::19971010::extensions to html 4.0//",
    "-//spyglass//dtd html 2.0 extended//", "-//sun microsystems corp.//dtd hotjava html//",
    "-//sun microsystems corp.//dtd hotjava strict html//", "-//w3c//dtd html 3 1995-03-24//",
    "-//w3c//dtd html 3.2 draft//", "-//w3c//dtd html 3.2 final//", "-//w3c//dtd html 3.2//",
    "-//w3c//dtd html 3.2s draft//", "-//w3c//dtd html 4.0 frameset//",
    "-//w3c//dtd html 4.0 transitional//", "-//w3c//dtd html experimental 19960712//",
    "-//w3c//dtd html experimental 970421//", "-//w3c//dtd w3 html//", "-//w3o//dtd w3 html 3.0//",
    "-//webtechs//dtd mozilla html 2.0//", "-//webtechs//dtd mozilla html//"]

/-- Beginnings of public identifiers that ask for the old reading only without a system
identifier. -/
def oldWithoutSystem : List String :=
  ["-//w3c//dtd html 4.01 frameset//", "-//w3c//dtd html 4.01 transitional//"]

/-- Whether a declaration asks for the page to be read as old pages were. -/
def DocumentType.isOld (d : DocumentType) : Bool :=
  let publicId := (d.publicId.getD "").toList.map Char.toLower
  let beginsWith := fun (names : List String) => names.any fun n => n.toList.isPrefixOf publicId
  d.broken || d.name != some "html" ||
    (d.publicId.isSome && (oldPublicIds.map String.toList).contains publicId) ||
    d.systemId.map (·.toList.map Char.toLower) ==
      some "http://www.ibm.com/data/dtd/v11/ibmxhtml1-transitional.dtd".toList ||
    beginsWith oldBeginnings || (d.systemId.isNone && beginsWith oldWithoutSystem)

/-! ## Around the body -/

def inInitial (token : Token) : Build Outcome := do
  match token with
  | .blank _ => return .done
  | .comment s => insertCommentIn 0 s; return .done
  | .documentType d =>
    modify fun c => { c with oldPage := DocumentType.isOld d, mode := .beforeRoot }
    return .done
  | _ =>
    modify fun c => { c with oldPage := true, mode := .beforeRoot }
    return .again

def openRoot (tag : Tag) : Build Unit := do
  let id ← makeElement .page tag
  modify fun c => { c with arena := c.arena.append 0 id, stack := [id], mode := .beforeHead }

def inBeforeRoot (token : Token) : Build Outcome := do
  let openMissing : Build Outcome := do
    openRoot { name := "html" }
    return .again
  match token with
  | .documentType _ | .blank _ => return .done
  | .comment s => insertCommentIn 0 s; return .done
  | .startTag tag =>
    if tag.name = "html" then
      openRoot tag
      return .done
    else openMissing
  | .endTag tag =>
    if ["head", "body", "html", "br"].contains tag.name then openMissing else return .done
  | _ => openMissing

def openHead (tag : Tag) : Build Unit := do
  let id ← openForeign .page tag
  modify fun c => { c with head := some id, mode := .inHead }

def inBeforeHead (token : Token) : Build Outcome := do
  let openMissing : Build Outcome := do
    openHead { name := "head" }
    return .again
  match token with
  | .blank _ | .documentType _ => return .done
  | .comment s => insertComment s; return .done
  | .startTag tag =>
    if tag.name = "html" then rootAgain tag
    else if tag.name = "head" then
      openHead tag
      return .done
    else openMissing
  | .endTag tag =>
    if ["head", "body", "html", "br"].contains tag.name then openMissing else return .done
  | _ => openMissing

def inAfterHead (token : Token) : Build Outcome := do
  let openMissing : Build Outcome := do
    openElement { name := "body" }
    setMode .inBody
    return .again
  match token with
  | .blank s => insertText s; return .done
  | .comment s => insertComment s; return .done
  | .documentType _ => return .done
  | .startTag tag =>
    let n := tag.name
    if n = "html" then rootAgain tag
    else if n = "body" then
      openElement tag
      forbidFrames
      setMode .inBody
      return .done
    else if n = "frameset" then
      openElement tag
      setMode .inFrameset
      return .done
    else if headTags.contains n then
      match (← get).head with
      | none => return .done
      | some head =>
        modify fun c => { c with stack := head :: c.stack }
        let r ← inHead token
        modify fun c => { c with stack := c.stack.filter (· != head) }
        return r
    else if n = "head" then return .done
    else openMissing
  | .endTag tag =>
    if tag.name = "template" then inHead token
    else if ["body", "html", "br"].contains tag.name then openMissing
    else return .done
  | _ => openMissing

def inAfterBody (token : Token) : Build Outcome := do
  let continueBody : Build Outcome := do
    setMode .inBody
    return .again
  match token with
  | .blank _ => inBody token
  | .comment s =>
    insertCommentIn ((← get).stack.getLast?.getD 0) s
    return .done
  | .documentType _ | .endOfPage => return .done
  | .startTag tag => if tag.name = "html" then rootAgain tag else continueBody
  | .endTag tag =>
    if tag.name = "html" then
      setMode .afterPage
      return .done
    else continueBody
  | _ => continueBody

def inFrameset (token : Token) : Build Outcome := do
  match token with
  | .blank s => insertText s; return .done
  | .comment s => insertComment s; return .done
  | .startTag tag =>
    if tag.name = "html" then rootAgain tag
    else if tag.name = "frameset" then
      openElement tag
      return .done
    else if tag.name = "frame" then
      openVoid tag
      return .done
    else if tag.name = "noframes" then inHead token
    else return .done
  | .endTag tag =>
    let c ← get
    if tag.name = "frameset" ∧ 2 ≤ c.stack.length then
      close
      if !(← get).currentIs ["frameset"] then setMode .afterFrameset
    return .done
  | _ => return .done

def inAfterFrameset (token : Token) : Build Outcome := do
  match token with
  | .blank s => insertText s; return .done
  | .comment s => insertComment s; return .done
  | .startTag tag =>
    if tag.name = "html" then rootAgain tag
    else if tag.name = "noframes" then inHead token
    else return .done
  | .endTag tag =>
    if tag.name = "html" then setMode .afterFramesetPage
    return .done
  | _ => return .done

/-- Rules after the end tag of the root. -/
def inAfterPage (token : Token) : Build Outcome := do
  let continueBody : Build Outcome := do
    setMode .inBody
    return .again
  match token with
  | .comment s => insertCommentIn 0 s; return .done
  | .documentType _ | .endOfPage => return .done
  | .blank _ => inBody token
  | .startTag tag => if tag.name = "html" then rootAgain tag else continueBody
  | _ => continueBody

/-- Rules after the end tag of the root of a page of frames. -/
def inAfterFramesetPage (token : Token) : Build Outcome := do
  match token with
  | .comment s => insertCommentIn 0 s; return .done
  | .blank _ => inBody token
  | .startTag tag =>
    if tag.name = "html" then rootAgain tag
    else if tag.name = "noframes" then inHead token
    else return .done
  | _ => return .done

/-! ## Reading a page -/

/-- The rules for the part of the page that construction is in. -/
def inPart (token : Token) : Build Outcome := do
  match (← get).mode with
  | .initial => inInitial token
  | .beforeRoot => inBeforeRoot token
  | .beforeHead => inBeforeHead token
  | .inHead => inHead token
  | .afterHead => inAfterHead token
  | .inBody => inBody token
  | .inText => inText token
  | .inTable => inTable token
  | .inTableText => inTableText token
  | .inCaption => inCaption token
  | .inColumnGroup => inColumnGroup token
  | .inTableBody => inTableBody token
  | .inRow => inRow token
  | .inCell => inCell token
  | .inTemplate => inTemplate token
  | .afterBody => inAfterBody token
  | .inFrameset => inFrameset token
  | .afterFrameset => inAfterFrameset token
  | .afterPage => inAfterPage token
  | .afterFramesetPage => inAfterFramesetPage token

/-- Look at a token until a rule is done with it, at most `looks` times. -/
def handle (token : Token) : Nat → Bool → Build Unit
  | 0, _ => pure ()
  | looks + 1, inPage => do
    let r ← if !inPage && isForeign (← get) token then inForeign token else inPart token
    match r with
    | .done => pure ()
    | .again => handle token looks false
    | .againInPage => handle token looks true

/-- Each time a token is looked at again an element has been opened or left, or the part has
changed; parts change no more than a fixed number of times between two changes of the open
elements. -/
def lookBound (c : Construction) : Nat := 32 * (c.stack.length + c.templateModes.length + 2)

/-- Drop the line feed at the start of a run. -/
def withoutLineFeed (token : Token) : List Token :=
  match token with
  | .blank s =>
    if s.toList.head? = some '\n' then
      (if s.length = 1 then [] else [.blank (String.ofList (s.toList.drop 1))])
    else [token]
  | _ => [token]

/-- Give a token to the rules. -/
def accept (token : Token) : Build Unit := do
  let c ← get
  let tokens := if c.dropLineFeed then withoutLineFeed token else [token]
  set { c with dropLineFeed := false }
  tokens.forM fun t => do handle t (lookBound (← get)) false

/-- Whether sections of character data count: the innermost open element is no element of the
page. -/
def readsCharacterData (c : Construction) : Bool :=
  match c.stack.head?.bind c.name? with
  | some (v, _) => v != .page
  | none => false

/-- Read the tokens of a page.  Each step takes a character at least, so that `steps` need not be
larger than the page. -/
def readAll : Nat → List Char → Build Unit
  | 0, _ => accept .endOfPage
  | steps + 1, cs =>
    if cs.isEmpty then accept .endOfPage
    else do
      let c ← get
      let (tokens, rest) := readTokens c.textMode c.readsCharacterData cs
      tokens.forM accept
      readAll steps rest

def readPage (page : String) : List Node :=
  let cs := normalizePage page.toList
  (StateT.run (m := Id) (readAll cs.length cs) {}).2.arena.nodes

end Construction
end Markup
end Folio
