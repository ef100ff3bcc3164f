import PageExtract.Html.Adoption
import PageExtract.Html.Foreign
import PageExtract.Html.Doctype

/-!
The rules that say what each piece of input does to the document, one function per mode.
-/

set_option autoImplicit false

namespace PageExtract.Html

open Builder

def ignore : Build Next := return .done

/-- Attributes of a second `html` tag go to the root element. -/
def mergeRootAttributes (t : Tag) : Build Next := do
  modify fun b =>
    if b.isOpen "template" then b
    else { b with doc := b.doc.addAttributes (b.stack.getLastD 0) (plainAttributes t) }
  return .done

def isHidden (t : Tag) : Bool :=
  t.attributes.any fun a => a.1 == "type" && String.ofList (lowered a.2) == "hidden"

/-- Metadata that may also stand in other places, and templates. -/
def metadata? (p : Piece) : Option (Build Next) :=
  match p with
  | .start t =>
    match t.name with
    | "base" | "basefont" | "bgsound" | "link" | "meta" => some do
      insertClosed t
      return .done
    | "title" => some (insertRaw t (.withReferences ['t', 'i', 't', 'l', 'e']))
    | "noframes" | "style" => some (insertRaw t (.raw t.name.toList))
    | "script" => some (insertRaw t .script)
    | "template" => some do
      discard (insertTag t)
      addMarker
      modify fun b =>
        { b with framesetAllowed := false, mode := .inTemplate
                 templateModes := .inTemplate :: b.templateModes }
      return .done
    | _ => none
  | .finish t =>
    if t.name == "template" then some do
      if (← get).isOpen "template" then
        closeImplied allImpliedEndNames
        popUntilNamed "template"
        clearToMarker
        modify fun b => { b with templateModes := b.templateModes.tail }
        setFittingMode
      return .done
    else none
  | _ => none

def inInitial (p : Piece) : Build Next := do
  match p with
  | .blank _ => ignore
  | .comment s => insertCommentAt (fun _ => .lastOf 0) s
  | p =>
    modify fun b => { b with outdated := true }
    againIn .beforeHtml p

def createRoot (attributes : List Attribute) : Build Unit := fun b =>
  let (n, b) := b.makeElement .html "html" attributes
  ((), { b with doc := b.doc.append 0 n, stack := [n] })

def inBeforeHtml (p : Piece) : Build Next := do
  let otherwise : Build Next := do
    createRoot []
    againIn .beforeHead p
  match p with
  | .blank _ => ignore
  | .comment s => insertCommentAt (fun _ => .lastOf 0) s
  | .start t =>
    if t.name == "html" then
      createRoot (plainAttributes t)
      setMode .beforeHead
      return .done
    else otherwise
  | .finish t =>
    if ["head", "body", "html", "br"].contains t.name then otherwise else ignore
  | _ => otherwise

def inBeforeHead (p : Piece) : Build Next := do
  let otherwise : Build Next := do
    let n ← insertNamed "head"
    modify fun b => { b with head := some n }
    againIn .inHead p
  match p with
  | .blank _ => ignore
  | .comment s => insertComment s
  | .start t =>
    match t.name with
    | "html" => mergeRootAttributes t
    | "head" =>
      let n ← insertTag t
      modify fun b => { b with head := some n, mode := .inHead }
      return .done
    | _ => otherwise
  | .finish t =>
    if ["head", "body", "html", "br"].contains t.name then otherwise else ignore
  | _ => otherwise

def inHead (p : Piece) : Build Next := do
  let otherwise : Build Next := do
    pop
    againIn .afterHead p
  match metadata? p with
  | some act => act
  | none =>
    match p with
    | .blank cs => insertText cs
    | .comment s => insertComment s
    | .start t =>
      match t.name with
      | "html" => mergeRootAttributes t
      | "noscript" => insertRaw t (.raw t.name.toList)
      | "head" => ignore
      | _ => otherwise
    | .finish t =>
      match t.name with
      | "head" =>
        pop
        setMode .afterHead
        return .done
      | "body" | "html" | "br" => otherwise
      | _ => ignore
    | _ => otherwise

def inAfterHead (p : Piece) : Build Next := do
  let otherwise : Build Next := do
    discard (insertNamed "body")
    againIn .inBody p
  match p with
  | .blank cs => insertText cs
  | .comment s => insertComment s
  | .start t =>
    match t.name with
    | "html" => mergeRootAttributes t
    | "body" =>
      discard (insertTag t)
      forbidFrameset
      setMode .inBody
      return .done
    | "frameset" =>
      discard (insertTag t)
      setMode .inFrameset
      return .done
    | "head" => ignore
    | _ =>
      match metadata? p with
      | some act =>
        -- Late metadata still goes into the head.
        let head := (← get).head.getD 0
        modify fun b => { b with stack := head :: b.stack }
        let next ← act
        removeFromStack head
        return next
      | none => otherwise
  | .finish t =>
    match t.name with
    | "body" | "html" | "br" => otherwise
    | _ =>
      match metadata? p with
      | some act => act
      | none => ignore
  | _ => otherwise

/-- The end of input in a template closes it. -/
def templateEnd (p : Piece) : Build Next := do
  if (← get).isOpen "template" then
    popUntilNamed "template"
    clearToMarker
    modify fun b => { b with templateModes := b.templateModes.tail }
    setFittingMode
    return .again p
  else ignore

def bodyChars (cs : List Char) (isBlank : Bool) : Build Next := do
  reconstructFormatting
  if !isBlank then forbidFrameset
  insertText cs

/-- The second element from the bottom, if it is a body. -/
def bodyElement? (b : Builder) : Option NodeId :=
  match b.stack.reverse with
  | _ :: n :: _ => if b.isHtml "body" n then some n else none
  | _ => none

/-- Closes the nearest item of a list or of a list of definitions. -/
def closeItem (names : List String) : Build Unit := do
  let b ← get
  let rec nearest : List NodeId → Option String
    | [] => none
    | n :: rest =>
      if b.isHtmlIn names n then some (b.element n).name
      else if b.isHtmlIn specialNames n && !b.isHtmlIn ["address", "div", "p"] n then none
      else nearest rest
  match nearest b.stack with
  | some name =>
    closeImpliedExcept name
    popUntilNamed name
  | none => pure ()

def insertVoid (t : Tag) : Build Next := do
  reconstructFormatting
  insertClosed t
  if !(t.name == "input" && isHidden t) then forbidFrameset
  return .done

def inBodyStart (t : Tag) : Build Next := do
  let plain : Build Next := do
    discard (insertTag t)
    return .done
  match t.name with
  | "html" => mergeRootAttributes t
  | "body" =>
    modify fun b =>
      match bodyElement? b with
      | some n =>
        if b.isOpen "template" then b
        else { b with framesetAllowed := false
                      doc := b.doc.addAttributes n (plainAttributes t) }
      | none => b
    return .done
  | "frameset" =>
    let b ← get
    match bodyElement? b with
    | some n =>
      if b.framesetAllowed then
        set { b with doc := b.doc.detach n, stack := [b.stack.getLastD 0] }
        discard (insertTag t)
        setMode .inFrameset
      return .done
    | none => ignore
  | "address" | "article" | "aside" | "blockquote" | "center" | "details" | "dialog" | "dir"
  | "div" | "dl" | "fieldset" | "figcaption" | "figure" | "footer" | "header" | "hgroup"
  | "main" | "menu" | "nav" | "ol" | "p" | "search" | "section" | "summary" | "ul" =>
    closeParagraphInScope
    plain
  | "h1" | "h2" | "h3" | "h4" | "h5" | "h6" =>
    closeParagraphInScope
    if (← get).currentIn headingNames then pop
    plain
  | "pre" | "listing" =>
    closeParagraphInScope
    discard (insertTag t)
    modify fun b => { b with dropLineFeed := true, framesetAllowed := false }
    return .done
  | "form" =>
    let b ← get
    if b.form.isSome && !b.isOpen "template" then ignore
    else
      closeParagraphInScope
      let n ← insertTag t
      modify fun b => if b.isOpen "template" then b else { b with form := some n }
      return .done
  | "li" =>
    forbidFrameset
    closeItem ["li"]
    closeParagraphInScope
    plain
  | "dd" | "dt" =>
    forbidFrameset
    closeItem ["dd", "dt"]
    closeParagraphInScope
    plain
  | "plaintext" =>
    closeParagraphInScope
    discard (insertTag t)
    modify fun b => { b with textMode := .plain }
    return .done
  | "button" =>
    if (← get).inScope .default "button" then
      closeImplied impliedEndNames
      popUntilNamed "button"
    reconstructFormatting
    discard (insertTag t)
    forbidFrameset
    return .done
  | "a" =>
    let b ← get
    let earlier := (sinceMarker b).findSome? fun
      | .element n tag => if tag.name == "a" then some n else none
      | .marker => none
    match earlier with
    | some n =>
      adopt "a"
      removeFormatting n
      removeFromStack n
    | none => pure ()
    reconstructFormatting
    insertFormatting t
    return .done
  | "b" | "big" | "code" | "em" | "font" | "i" | "s" | "small" | "strike" | "strong" | "tt" | "u" =>
    reconstructFormatting
    insertFormatting t
    return .done
  | "nobr" =>
    reconstructFormatting
    if (← get).inScope .default "nobr" then
      adopt "nobr"
      reconstructFormatting
    insertFormatting t
    return .done
  | "applet" | "marquee" | "object" =>
    reconstructFormatting
    discard (insertTag t)
    addMarker
    forbidFrameset
    return .done
  | "table" =>
    if !(← get).outdated then closeParagraphInScope
    discard (insertTag t)
    forbidFrameset
    setMode .inTable
    return .done
  | "area" | "br" | "embed" | "img" | "keygen" | "wbr" | "input" => insertVoid t
  | "param" | "source" | "track" =>
    insertClosed t
    return .done
  | "hr" =>
    closeParagraphInScope
    insertClosed t
    forbidFrameset
    return .done
  | "image" => insertVoid { t with name := "img" }
  | "textarea" =>
    modify fun b => { b with dropLineFeed := true, framesetAllowed := false }
    insertRaw t (.withReferences t.name.toList)
  | "xmp" =>
    closeParagraphInScope
    reconstructFormatting
    forbidFrameset
    insertRaw t (.raw t.name.toList)
  | "iframe" =>
    forbidFrameset
    insertRaw t (.raw t.name.toList)
  | "noembed" | "noscript" => insertRaw t (.raw t.name.toList)
  | "select" =>
    reconstructFormatting
    discard (insertTag t)
    forbidFrameset
    modify fun b =>
      { b with mode :=
        if [Mode.inTable, .inCaption, .inTableBody, .inRow, .inCell].contains b.mode then
          .inSelectInTable
        else .inSelect }
    return .done
  | "optgroup" | "option" =>
    if (← get).currentIs "option" then pop
    reconstructFormatting
    plain
  | "rb" | "rtc" =>
    if (← get).inScope .default "ruby" then closeImplied impliedEndNames
    plain
  | "rp" | "rt" =>
    if (← get).inScope .default "ruby" then closeImpliedExcept "rtc"
    plain
  | "math" => insertForeign .mathml "math" t
  | "svg" => insertForeign .svg "svg" t
  | "caption" | "col" | "colgroup" | "frame" | "head" | "tbody" | "td" | "tfoot" | "th"
  | "thead" | "tr" => ignore
  | _ =>
    reconstructFormatting
    plain

def inBodyEnd (t : Tag) : Build Next := do
  match t.name with
  | "body" =>
    if (← get).inScope .default "body" then setMode .afterBody
    return .done
  | "html" =>
    if (← get).inScope .default "body" then againIn .afterBody (.finish t) else ignore
  | "address" | "article" | "aside" | "blockquote" | "button" | "center" | "details" | "dialog"
  | "dir" | "div" | "dl" | "fieldset" | "figcaption" | "figure" | "footer" | "header" | "hgroup"
  | "listing" | "main" | "menu" | "nav" | "ol" | "pre" | "search" | "section" | "summary" | "ul" =>
    if (← get).inScope .default t.name then
      closeImplied impliedEndNames
      popUntilNamed t.name
    return .done
  | "form" =>
    let b ← get
    if b.isOpen "template" then
      if b.inScope .default "form" then
        closeImplied impliedEndNames
        popUntilNamed "form"
      return .done
    else
      set { b with form := none }
      match b.form with
      | none => ignore
      | some n =>
        if b.inScopeOf .default (· == n) b.stack then
          closeImplied impliedEndNames
          removeFromStack n
        return .done
  | "p" =>
    if !(← get).inScope .button "p" then discard (insertNamed "p")
    closeParagraph
    return .done
  | "li" | "dd" | "dt" =>
    if (← get).inScope (if t.name == "li" then .list else .default) t.name then
      closeImpliedExcept t.name
      popUntilNamed t.name
    return .done
  | "h1" | "h2" | "h3" | "h4" | "h5" | "h6" =>
    let b ← get
    if b.inScopeOf .default (b.isHtmlIn headingNames) b.stack then
      closeImplied impliedEndNames
      popUntil fun b n => b.isHtmlIn headingNames n
    return .done
  | "a" | "b" | "big" | "code" | "em" | "font" | "i" | "nobr" | "s" | "small" | "strike"
  | "strong" | "tt" | "u" =>
    adopt t.name
    return .done
  | "applet" | "marquee" | "object" =>
    if (← get).inScope .default t.name then
      closeImplied impliedEndNames
      popUntilNamed t.name
      clearToMarker
    return .done
  | "br" => insertVoid { t with attributes := [] }
  | _ =>
    closeAnyOther t.name
    return .done

def inBody (p : Piece) : Build Next := do
  match metadata? p with
  | some act => act
  | none =>
    match p with
    | .null => ignore
    | .blank cs => bodyChars cs true
    | .chars cs => bodyChars cs false
    | .comment s => insertComment s
    | .start t => inBodyStart t
    | .finish t => inBodyEnd t
    | .eof => if (← get).templateModes.isEmpty then ignore else templateEnd p

def inRawText (p : Piece) : Build Next := do
  match p with
  | .blank cs | .chars cs => insertText cs
  | .eof =>
    pop
    modify fun b => { b with mode := b.returnMode, textMode := .markup }
    return .again p
  | .finish _ =>
    pop
    modify fun b => { b with mode := b.returnMode, textMode := .markup }
    return .done
  | _ => ignore

/-- A piece that doesn't belong into a table goes in front of it. -/
def fosterInBody (p : Piece) : Build Next := do
  modify fun b => { b with fostering := true }
  let next ← inBody p
  modify fun b => { b with fostering := false }
  return next

def tableChars (p : Piece) : Build Next := do
  let b ← get
  if b.currentIn ["table", "tbody", "template", "tfoot", "thead", "tr"] then
    set { b with returnMode := b.mode }
    againIn .inTableText p
  else fosterInBody p

def inTable (p : Piece) : Build Next := do
  let tableNames := ["html", "table", "template"]
  match p with
  | .null | .chars _ | .blank _ => tableChars p
  | .comment s => insertComment s
  | .start t =>
    match t.name with
    | "caption" =>
      popDownTo tableNames
      addMarker
      discard (insertTag t)
      setMode .inCaption
      return .done
    | "colgroup" =>
      popDownTo tableNames
      discard (insertTag t)
      setMode .inColumnGroup
      return .done
    | "col" =>
      popDownTo tableNames
      discard (insertNamed "colgroup")
      againIn .inColumnGroup p
    | "tbody" | "tfoot" | "thead" =>
      popDownTo tableNames
      discard (insertTag t)
      setMode .inTableBody
      return .done
    | "td" | "th" | "tr" =>
      popDownTo tableNames
      discard (insertNamed "tbody")
      againIn .inTableBody p
    | "table" =>
      if (← get).inScope .table "table" then
        popUntilNamed "table"
        setFittingMode
        return .again p
      else ignore
    | "style" | "script" | "template" => (metadata? p).getD ignore
    | "input" =>
      if isHidden t then
        insertClosed t
        return .done
      else fosterInBody p
    | "form" =>
      let b ← get
      if !b.isOpen "template" && b.form.isNone then
        let n ← insertTag t
        pop
        modify fun b => { b with form := some n }
      return .done
    | _ => fosterInBody p
  | .finish t =>
    match t.name with
    | "table" =>
      if (← get).inScope .table "table" then
        popUntilNamed "table"
        setFittingMode
      return .done
    | "body" | "caption" | "col" | "colgroup" | "html" | "tbody" | "td" | "tfoot" | "th" | "thead"
    | "tr" => ignore
    | "template" => (metadata? p).getD ignore
    | _ => fosterInBody p
  | .eof => inBody p

/-- Puts text that was gathered in a table where it belongs. -/
def flushTableText : List (Bool × List Char) → Bool → Build Unit
  | [], _ => pure ()
  | (isBlank, cs) :: rest, foster => do
    if foster then discard (fosterInBody (if isBlank then .blank cs else .chars cs))
    else discard (insertText cs)
    flushTableText rest foster

def inTableText (p : Piece) : Build Next := do
  match p with
  | .null => ignore
  | .blank cs =>
    modify fun b => { b with tableText := b.tableText ++ [(true, cs)] }
    return .done
  | .chars cs =>
    modify fun b => { b with tableText := b.tableText ++ [(false, cs)] }
    return .done
  | p =>
    let b ← get
    set { b with tableText := [] }
    flushTableText b.tableText (b.tableText.any fun t => !t.1)
    againIn b.returnMode p

def inCaption (p : Piece) : Build Next := do
  let close (p : Piece) (again : Bool) : Build Next := do
    if (← get).inScope .table "caption" then
      closeImplied impliedEndNames
      popUntilNamed "caption"
      clearToMarker
      setMode .inTable
      return if again then .again p else .done
    else ignore
  match p with
  | .start t =>
    if ["caption", "col", "colgroup", "tbody", "td", "tfoot", "th", "thead", "tr"].contains t.name
    then close p true else inBody p
  | .finish t =>
    match t.name with
    | "caption" => close p false
    | "table" => close p true
    | "body" | "col" | "colgroup" | "html" | "tbody" | "td" | "tfoot" | "th" | "thead" | "tr" =>
      ignore
    | _ => inBody p
  | _ => inBody p

def inColumnGroup (p : Piece) : Build Next := do
  let otherwise : Build Next := do
    if (← get).currentIs "colgroup" then
      pop
      againIn .inTable p
    else ignore
  match p with
  | .blank cs => insertText cs
  | .comment s => insertComment s
  | .start t =>
    match t.name with
    | "html" => mergeRootAttributes t
    | "col" =>
      insertClosed t
      return .done
    | "template" => (metadata? p).getD ignore
    | _ => otherwise
  | .finish t =>
    match t.name with
    | "colgroup" =>
      if (← get).currentIs "colgroup" then
        pop
        setMode .inTable
      return .done
    | "col" => ignore
    | "template" => (metadata? p).getD ignore
    | _ => otherwise
  | .eof => inBody p
  | _ => otherwise

def tableBodyNames : List String := ["html", "tbody", "template", "tfoot", "thead"]

def tableRowNames : List String := ["html", "template", "tr"]

def inTableBody (p : Piece) : Build Next := do
  let closeBody : Build Next := do
    let b ← get
    if b.inScopeOf .table (b.isHtmlIn ["table", "tbody", "tfoot"]) b.stack then
      popDownTo tableBodyNames
      pop
      againIn .inTable p
    else ignore
  match p with
  | .start t =>
    match t.name with
    | "tr" =>
      popDownTo tableBodyNames
      discard (insertTag t)
      setMode .inRow
      return .done
    | "th" | "td" =>
      popDownTo tableBodyNames
      discard (insertNamed "tr")
      againIn .inRow p
    | "caption" | "col" | "colgroup" | "tbody" | "tfoot" | "thead" => closeBody
    | _ => inTable p
  | .finish t =>
    match t.name with
    | "tbody" | "tfoot" | "thead" =>
      if (← get).inScope .table t.name then
        popDownTo tableBodyNames
        pop
        setMode .inTable
      return .done
    | "table" => closeBody
    | "body" | "caption" | "col" | "colgroup" | "html" | "td" | "th" | "tr" => ignore
    | _ => inTable p
  | _ => inTable p

def inRow (p : Piece) : Build Next := do
  let closeRow : Build Next := do
    if (← get).inScope .table "tr" then
      popDownTo tableRowNames
      pop
      againIn .inTableBody p
    else ignore
  match p with
  | .start t =>
    match t.name with
    | "th" | "td" =>
      popDownTo tableRowNames
      discard (insertTag t)
      setMode .inCell
      addMarker
      return .done
    | "caption" | "col" | "colgroup" | "tbody" | "tfoot" | "thead" | "tr" => closeRow
    | _ => inTable p
  | .finish t =>
    match t.name with
    | "tr" =>
      if (← get).inScope .table "tr" then
        popDownTo tableRowNames
        pop
        setMode .inTableBody
      return .done
    | "table" => closeRow
    | "tbody" | "tfoot" | "thead" =>
      if (← get).inScope .table t.name then closeRow else ignore
    | "body" | "caption" | "col" | "colgroup" | "html" | "td" | "th" => ignore
    | _ => inTable p
  | _ => inTable p

def closeCell : Build Unit := do
  closeImplied impliedEndNames
  popUntil fun b n => b.isHtmlIn ["td", "th"] n
  clearToMarker

def inCell (p : Piece) : Build Next := do
  match p with
  | .start t =>
    if ["caption", "col", "colgroup", "tbody", "td", "tfoot", "th", "thead", "tr"].contains t.name
    then
      let b ← get
      if b.inScopeOf .table (b.isHtmlIn ["td", "th"]) b.stack then
        closeCell
        againIn .inRow p
      else ignore
    else inBody p
  | .finish t =>
    match t.name with
    | "td" | "th" =>
      if (← get).inScope .table t.name then
        closeImplied impliedEndNames
        popUntilNamed t.name
        clearToMarker
        setMode .inRow
      return .done
    | "body" | "caption" | "col" | "colgroup" | "html" => ignore
    | "table" | "tbody" | "tfoot" | "thead" | "tr" =>
      if (← get).inScope .table t.name then
        closeCell
        againIn .inRow p
      else ignore
    | _ => inBody p
  | _ => inBody p

def inSelect (p : Piece) : Build Next := do
  match p with
  | .null => ignore
  | .blank cs | .chars cs => insertText cs
  | .comment s => insertComment s
  | .start t =>
    match t.name with
    | "html" => mergeRootAttributes t
    | "option" =>
      if (← get).currentIs "option" then pop
      discard (insertTag t)
      return .done
    | "optgroup" =>
      if (← get).currentIs "option" then pop
      if (← get).currentIs "optgroup" then pop
      discard (insertTag t)
      return .done
    | "hr" =>
      if (← get).currentIs "option" then pop
      if (← get).currentIs "optgroup" then pop
      insertClosed t
      return .done
    | "select" =>
      if (← get).inScope .select "select" then
        popUntilNamed "select"
        setFittingMode
      return .done
    | "input" | "keygen" | "textarea" =>
      if (← get).inScope .select "select" then
        popUntilNamed "select"
        setFittingMode
        return .again p
      else ignore
    | "script" | "template" => (metadata? p).getD ignore
    | _ => ignore
  | .finish t =>
    match t.name with
    | "optgroup" =>
      let b ← get
      match b.stack with
      | n :: m :: _ => if b.isHtml "option" n && b.isHtml "optgroup" m then pop
      | _ => pure ()
      if (← get).currentIs "optgroup" then pop
      return .done
    | "option" =>
      if (← get).currentIs "option" then pop
      return .done
    | "select" =>
      if (← get).inScope .select "select" then
        popUntilNamed "select"
        setFittingMode
      return .done
    | "template" => (metadata? p).getD ignore
    | _ => ignore
  | .eof => inBody p

def inSelectInTable (p : Piece) : Build Next := do
  let tableParts := ["caption", "table", "tbody", "tfoot", "thead", "tr", "td", "th"]
  match p with
  | .start t =>
    if tableParts.contains t.name then
      popUntilNamed "select"
      setFittingMode
      return .again p
    else inSelect p
  | .finish t =>
    if tableParts.contains t.name then
      if (← get).inScope .table t.name then
        popUntilNamed "select"
        setFittingMode
        return .again p
      else ignore
    else inSelect p
  | _ => inSelect p

def inTemplate (p : Piece) : Build Next := do
  let switch (m : Mode) : Build Next := do
    modify fun b => { b with templateModes := m :: b.templateModes.tail }
    againIn m p
  match p with
  | .blank _ | .chars _ | .comment _ => inBody p
  | .null => ignore
  | .start t =>
    match metadata? p with
    | some act => act
    | none =>
      match t.name with
      | "caption" | "colgroup" | "tbody" | "tfoot" | "thead" => switch .inTable
      | "col" => switch .inColumnGroup
      | "tr" => switch .inTableBody
      | "td" | "th" => switch .inRow
      | _ => switch .inBody
  | .finish _ => (metadata? p).getD ignore
  | .eof => templateEnd p

def inAfterBody (p : Piece) : Build Next := do
  match p with
  | .blank _ => inBody p
  | .comment s => insertCommentAt (fun b => .lastOf (b.stack.getLastD 0)) s
  | .eof => ignore
  | .start t => if t.name == "html" then mergeRootAttributes t else againIn .inBody p
  | .finish t =>
    if t.name == "html" then
      setMode .afterAfterBody
      return .done
    else againIn .inBody p
  | _ => againIn .inBody p

def inFrameset (p : Piece) : Build Next := do
  match p with
  | .blank cs => insertText cs
  | .comment s => insertComment s
  | .start t =>
    match t.name with
    | "html" => mergeRootAttributes t
    | "frameset" =>
      discard (insertTag t)
      return .done
    | "frame" =>
      insertClosed t
      return .done
    | "noframes" => (metadata? p).getD ignore
    | _ => ignore
  | .finish t =>
    if t.name == "frameset" && 1 < (← get).stack.length then
      pop
      if !(← get).currentIs "frameset" then setMode .afterFrameset
    return .done
  | _ => ignore

def inAfterFrameset (p : Piece) : Build Next := do
  match p with
  | .blank cs => insertText cs
  | .comment s => insertComment s
  | .start t =>
    match t.name with
    | "html" => mergeRootAttributes t
    | "noframes" => (metadata? p).getD ignore
    | _ => ignore
  | .finish t =>
    if t.name == "html" then setMode .afterAfterFrameset
    return .done
  | _ => ignore

def inAfterAfterBody (p : Piece) : Build Next := do
  match p with
  | .blank _ => inBody p
  | .comment s => insertCommentAt (fun _ => .lastOf 0) s
  | .eof => ignore
  | .start t => if t.name == "html" then mergeRootAttributes t else againIn .inBody p
  | _ => againIn .inBody p

def inAfterAfterFrameset (p : Piece) : Build Next := do
  match p with
  | .blank _ => inBody p
  | .comment s => insertCommentAt (fun _ => .lastOf 0) s
  | .start t =>
    match t.name with
    | "html" => mergeRootAttributes t
    | "noframes" => (metadata? p).getD ignore
    | _ => ignore
  | _ => ignore

/-- What a piece does in the current mode. -/
def byMode (p : Piece) : Build Next := do
  match (← get).mode with
  | .initial => inInitial p
  | .beforeHtml => inBeforeHtml p
  | .beforeHead => inBeforeHead p
  | .inHead => inHead p
  | .afterHead => inAfterHead p
  | .inBody => inBody p
  | .text => inRawText p
  | .inTable => inTable p
  | .inTableText => inTableText p
  | .inCaption => inCaption p
  | .inColumnGroup => inColumnGroup p
  | .inTableBody => inTableBody p
  | .inRow => inRow p
  | .inCell => inCell p
  | .inSelect => inSelect p
  | .inSelectInTable => inSelectInTable p
  | .inTemplate => inTemplate p
  | .afterBody => inAfterBody p
  | .inFrameset => inFrameset p
  | .afterFrameset => inAfterFrameset p
  | .afterAfterBody => inAfterAfterBody p
  | .afterAfterFrameset => inAfterAfterFrameset p

/-- What a piece does inside of SVG or MathML. -/
def inForeign (p : Piece) : Build Next := do
  match p with
  | .null => insertText ['\uFFFD']
  | .blank cs => insertText cs
  | .chars cs =>
    forbidFrameset
    insertText cs
  | .comment s => insertComment s
  | .start t => if breaksOut t then leaveForeign p else foreignStart t
  | .finish t =>
    if t.name == "br" || t.name == "p" then leaveForeign p
    else
      let b ← get
      match foreignEnd b t.name true b.stack with
      | some stack =>
        set { b with stack := stack }
        return .done
      | none => byMode p
  | .eof => byMode p

def step (p : Piece) : Build Next := do
  if isForeign (← get) p then inForeign p else byMode p

/-- Looks at a piece until it is done with. -/
def settle : Nat → Piece → Build Unit
  | 0, _ => pure ()
  | fuel + 1, p => do
    match ← step p with
    | .done => pure ()
    | .again p => settle fuel p

/-- A piece is looked at again only after elements were closed or for a later mode. -/
def process (p : Piece) : Build Unit := do
  settle (2 * (← get).stack.length + 32) p

end PageExtract.Html
