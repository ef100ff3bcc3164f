import PageExtract.Html.Builder

/-!
Elements of SVG and MathML: spellings that differ from the lower case that tags are read in, and
attributes that belong to namespaces.
-/

set_option autoImplicit false

namespace PageExtract.Html

def svgTagName (name : String) : String :=
  match name with
  | "altglyph" => "altGlyph"
  | "altglyphdef" => "altGlyphDef"
  | "altglyphitem" => "altGlyphItem"
  | "animatecolor" => "animateColor"
  | "animatemotion" => "animateMotion"
  | "animatetransform" => "animateTransform"
  | "clippath" => "clipPath"
  | "feblend" => "feBlend"
  | "fecolormatrix" => "feColorMatrix"
  | "fecomponenttransfer" => "feComponentTransfer"
  | "fecomposite" => "feComposite"
  | "feconvolvematrix" => "feConvolveMatrix"
  | "fediffuselighting" => "feDiffuseLighting"
  | "fedisplacementmap" => "feDisplacementMap"
  | "fedistantlight" => "feDistantLight"
  | "fedropshadow" => "feDropShadow"
  | "feflood" => "feFlood"
  | "fefunca" => "feFuncA"
  | "fefuncb" => "feFuncB"
  | "fefuncg" => "feFuncG"
  | "fefuncr" => "feFuncR"
  | "fegaussianblur" => "feGaussianBlur"
  | "feimage" => "feImage"
  | "femerge" => "feMerge"
  | "femergenode" => "feMergeNode"
  | "femorphology" => "feMorphology"
  | "feoffset" => "feOffset"
  | "fepointlight" => "fePointLight"
  | "fespecularlighting" => "feSpecularLighting"
  | "fespotlight" => "feSpotLight"
  | "fetile" => "feTile"
  | "feturbulence" => "feTurbulence"
  | "foreignobject" => "foreignObject"
  | "glyphref" => "glyphRef"
  | "lineargradient" => "linearGradient"
  | "radialgradient" => "radialGradient"
  | "textpath" => "textPath"
  | name => name

def svgAttributeNames : List (String × String) :=
  ["attributeName", "attributeType", "baseFrequency", "baseProfile", "calcMode", "clipPathUnits",
   "diffuseConstant", "edgeMode", "filterUnits", "glyphRef", "gradientTransform", "gradientUnits",
   "kernelMatrix", "kernelUnitLength", "keyPoints", "keySplines", "keyTimes", "lengthAdjust",
   "limitingConeAngle", "markerHeight", "markerUnits", "markerWidth", "maskContentUnits",
   "maskUnits", "numOctaves", "pathLength", "patternContentUnits", "patternTransform",
   "patternUnits", "pointsAtX", "pointsAtY", "pointsAtZ", "preserveAlpha", "preserveAspectRatio",
   "primitiveUnits", "refX", "refY", "repeatCount", "repeatDur", "requiredExtensions",
   "requiredFeatures", "specularConstant", "specularExponent", "spreadMethod", "startOffset",
   "stdDeviation", "stitchTiles", "surfaceScale", "systemLanguage", "tableValues", "targetX",
   "targetY", "textLength", "viewBox", "viewTarget", "xChannelSelector", "yChannelSelector",
   "zoomAndPan"].map fun name => (String.ofList (name.toList.map Char.toLower), name)

def foreignAttribute (name value : String) : Attribute :=
  match name with
  | "xlink:actuate" => ⟨.xlink, "actuate", value⟩
  | "xlink:arcrole" => ⟨.xlink, "arcrole", value⟩
  | "xlink:href" => ⟨.xlink, "href", value⟩
  | "xlink:role" => ⟨.xlink, "role", value⟩
  | "xlink:show" => ⟨.xlink, "show", value⟩
  | "xlink:title" => ⟨.xlink, "title", value⟩
  | "xlink:type" => ⟨.xlink, "type", value⟩
  | "xml:base" => ⟨.xml, "base", value⟩
  | "xml:lang" => ⟨.xml, "lang", value⟩
  | "xml:space" => ⟨.xml, "space", value⟩
  | "xmlns" => ⟨.xmlns, "xmlns", value⟩
  | "xmlns:xlink" => ⟨.xmlns, "xlink", value⟩
  | name => ⟨.none, name, value⟩

def foreignAttributes (space : Namespace) (t : Tag) : List Attribute :=
  t.attributes.map fun (name, value) =>
    let name := match space with
      | .svg =>
        match svgAttributeNames.find? fun p => p.1 == name with
        | some p => p.2
        | none => name
      | .mathml => if name == "definitionurl" then "definitionURL" else name
      | _ => name
    foreignAttribute name value

/-- Makes an element of a namespace at the current place; a slash closes it. -/
def insertForeign (space : Namespace) (name : String) (t : Tag) : Build Next := do
  discard (insertElement space name (foreignAttributes space t))
  if t.selfClosing then pop
  return .done

/-- A start tag inside of foreign content. -/
def foreignStart (t : Tag) : Build Next := do
  let b ← get
  let space := (b.element b.current).space
  insertForeign space (if space == .svg then svgTagName t.name else t.name) t

/-- Start tags that foreign content can't hold. -/
def breaksOut (t : Tag) : Bool :=
  ["b", "big", "blockquote", "body", "br", "center", "code", "dd", "div", "dl", "dt", "em",
   "embed", "h1", "h2", "h3", "h4", "h5", "h6", "head", "hr", "i", "img", "li", "listing", "menu",
   "meta", "nobr", "ol", "p", "pre", "ruby", "s", "small", "span", "strong", "strike", "sub",
   "sup", "table", "tt", "u", "ul", "var"].contains t.name ||
  (t.name == "font" && t.attributes.any fun a => ["color", "face", "size"].contains a.1)

/-- Closes foreign elements up to one that may hold markup, and looks at the piece again. -/
def leaveForeign (p : Piece) : Build Next := do
  modify fun b =>
    let holdsMarkup (n : NodeId) : Bool :=
      let e := b.element n
      e.space == .html || isMathTextPoint e || isSvgHtmlPoint e
    { b with stack := b.stack.tail.dropWhile fun n => !holdsMarkup n }
  return .again p

/-- The piece is looked at by the rules of foreign content. -/
def isForeign (b : Builder) (p : Piece) : Bool :=
  match b.stack with
  | [] => false
  | n :: _ =>
    let e := b.element n
    if e.space == .html then false
    else match p with
      | .eof => false
      | .blank _ | .chars _ | .null => !(isMathTextPoint e || isSvgHtmlPoint e)
      | .start t =>
        if isMathTextPoint e && t.name != "mglyph" && t.name != "malignmark" then false
        else if isSvgHtmlPoint e then false
        else !(e.space == .mathml && e.name == "annotation-xml" && t.name == "svg")
      | _ => true

/-- The elements left open by an end tag in foreign content, or `none` if an element of the page is
met first. -/
def foreignEnd (b : Builder) (name : String) : Bool → List NodeId → Option (List NodeId)
  | _, [] => some b.stack
  | _, [_] => some b.stack
  | first, n :: rest =>
    let e := b.element n
    if !first && e.space == .html then none
    else if String.ofList (e.name.toList.map Char.toLower) == name then some rest
    else foreignEnd b name false rest

end PageExtract.Html
