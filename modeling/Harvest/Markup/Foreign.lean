import Harvest.Markup.Token
import Harvest.Markup.Name
/-!
# Drawings and mathematics in markup

Tags are read in lower case; the vocabularies of drawings and of mathematics know some names in other spellings, and
some attributes that belong to vocabularies of their own.
-/
namespace Harvest.Markup.Foreign

/-- The names of drawings that have capital letters. -/
def svgNames : List String := Name.listed [
  "altGlyph altGlyphDef altGlyphItem animateColor animateMotion animateTransform clipPath feBlend feColorMatrix",
  "feComponentTransfer feComposite feConvolveMatrix feDiffuseLighting feDisplacementMap feDistantLight feDropShadow",
  "feFlood feFuncA feFuncB feFuncG feFuncR feGaussianBlur feImage feMerge feMergeNode feMorphology feOffset",
  "fePointLight feSpecularLighting feSpotLight feTile feTurbulence foreignObject glyphRef linearGradient",
  "radialGradient textPath"]

/-- The attributes of drawings that have capital letters. -/
def svgAttrs : List String := Name.listed [
  "attributeName attributeType baseFrequency baseProfile calcMode clipPathUnits diffuseConstant edgeMode filterUnits",
  "glyphRef gradientTransform gradientUnits kernelMatrix kernelUnitLength keyPoints keySplines keyTimes lengthAdjust",
  "limitingConeAngle markerHeight markerUnits markerWidth maskContentUnits maskUnits numOctaves pathLength",
  "patternContentUnits patternTransform patternUnits pointsAtX pointsAtY pointsAtZ preserveAlpha preserveAspectRatio",
  "primitiveUnits refX refY repeatCount repeatDur requiredExtensions requiredFeatures specularConstant",
  "specularExponent spreadMethod startOffset stdDeviation stitchTiles surfaceScale systemLanguage tableValues targetX",
  "targetY textLength viewBox viewTarget xChannelSelector yChannelSelector zoomAndPan"]

/-- The listed spelling of a name in lower case. -/
def spelling (listing : List String) (name : String) : String :=
  (listing.find? fun s => String.ofList (s.toList.map Char.toLower) == name).getD name

/-- The attributes that belong to a vocabulary of links. -/
def linkAttrs : List String := ["actuate", "arcrole", "href", "role", "show", "title", "type"]

/-- An attribute outside of the main vocabulary. -/
def attr (name value : String) : Attr :=
  if name == "xmlns" then ⟨.xmlns, name, value⟩
  else if name == "xmlns:xlink" then ⟨.xmlns, "xlink", value⟩
  else if name == "xml:lang" then ⟨.xml, "lang", value⟩
  else if name == "xml:space" then ⟨.xml, "space", value⟩
  else match linkAttrs.find? fun n => "xlink:" ++ n == name with
    | some n => ⟨.xlink, n, value⟩
    | none => .plain name value

/-- The attributes of an element in a vocabulary. -/
def attrs (space : Space) (as : List (String × String)) : List Attr :=
  Attr.sorted (as.map fun p =>
    match space with
    | .html => .plain p.1 p.2
    | .svg => attr (spelling svgAttrs p.1) p.2
    | .mathml => attr (if p.1 == "definitionurl" then "definitionURL" else p.1) p.2)

/-- The tags that end a drawing or a formula. -/
def breakouts : List String := Name.listed [
  "b big blockquote body br center code dd div dl dt em embed h1 h2 h3 h4 h5 h6 head hr i img li listing menu meta nobr",
  "ol p pre ruby s small span strong strike sub sup table tt u ul var"]

/-- Does a start tag end a drawing or a formula? -/
def breaksOut (t : StartTag) : Bool :=
  breakouts.contains t.name
    || (t.name == "font" && t.attrs.any fun a => ["color", "face", "size"].contains a.1)

end Harvest.Markup.Foreign
