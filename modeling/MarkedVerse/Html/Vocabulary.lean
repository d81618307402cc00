import MarkedVerse.Html.Tree

/-!
# What may stay in markup

The elements, attributes and classes that clean markup may have. The classes are those by which the
blocks of a document are styled.
-/

namespace MarkedVerse.Html

/-- Elements that may stay. -/
def allowedElements : List String :=
  ["a", "abbr", "acronym", "area", "article", "aside", "b", "bdi", "bdo", "blockquote", "br",
   "caption", "center", "cite", "code", "col", "colgroup", "data", "dd", "del", "details", "dfn",
   "div", "dl", "dt", "em", "figcaption", "figure", "footer", "h1", "h2", "h3", "h4", "h5", "h6",
   "header", "hgroup", "hr", "i", "img", "ins", "kbd", "li", "map", "mark", "nav", "ol", "p",
   "pre", "q", "rp", "rt", "rtc", "ruby", "s", "samp", "section", "small", "span", "strike",
   "strong", "sub", "summary", "sup", "table", "tbody", "td", "th", "thead", "time", "tr", "tt",
   "u", "ul", "var", "wbr"]

/-- Elements that nothing can stand in. -/
def voidElements : List String :=
  ["area", "br", "col", "hr", "img", "wbr"]

/-- Attributes that may stay on every element. -/
def commonAttributes : List String :=
  ["lang", "title", "dir", "id"]

/-- Attributes that may stay on an element of this name besides the common ones. -/
def ownAttributes (element : String) : List String :=
  match element with
  | "a" => ["href", "hreflang"]
  | "bdo" => ["dir"]
  | "blockquote" => ["cite"]
  | "col" => ["align", "char", "charoff", "span"]
  | "colgroup" => ["align", "char", "charoff", "span"]
  | "del" => ["cite", "datetime"]
  | "hr" => ["align", "size", "width"]
  | "img" => ["align", "alt", "height", "src", "width"]
  | "ins" => ["cite", "datetime"]
  | "ol" => ["start"]
  | "q" => ["cite"]
  | "table" => ["align", "char", "charoff", "summary"]
  | "tbody" => ["align", "char", "charoff"]
  | "td" => ["align", "char", "charoff", "colspan", "headers", "rowspan"]
  | "th" => ["align", "char", "charoff", "colspan", "headers", "rowspan", "scope"]
  | "thead" => ["align", "char", "charoff"]
  | "tr" => ["align", "char", "charoff"]
  | _ => []

/-- The classes that may stay on an element of this name, when it may have a class. -/
def ownClasses? (element : String) : Option (List String) :=
  match element with
  | "div" => some ["verse-document", "couplet"]
  | "section" =>
    some ["verse", "align-right", "align-center", "align-indent", "align-left", "spacing-header",
      "spacing-regular", "spacing-after-break", "spacing-before-break", "spacing-enclosed",
      "couplet", "highlight"]
  | "header" => some ["verse-header", "align-center", "spacing-header", "couplet"]
  | "hr" => some ["divider", "divider-compact", "divider-regular", "divider-frame"]
  | "p" => some ["line", "hemistich"]
  | "span" => some ["verse-number"]
  | _ => none

/-- Names of elements of drawings, other than those that HTML has too. -/
def drawingNames : List String :=
  ["animate", "animateMotion", "animateTransform", "circle", "clipPath", "defs", "desc",
   "discard", "ellipse", "feBlend", "feColorMatrix", "feComponentTransfer", "feComposite",
   "feConvolveMatrix", "feDiffuseLighting", "feDisplacementMap", "feDistantLight",
   "feDropShadow", "feFlood", "feFuncA", "feFuncB", "feFuncG", "feFuncR", "feGaussianBlur",
   "feImage", "feMerge", "feMergeNode", "feMorphology", "feOffset", "fePointLight",
   "feSpecularLighting", "feSpotLight", "feTile", "feTurbulence", "filter", "foreignObject", "g",
   "image", "line", "linearGradient", "marker", "mask", "metadata", "mpath", "path", "pattern",
   "polygon", "polyline", "radialGradient", "rect", "set", "stop", "svg", "switch", "symbol",
   "text", "textPath", "tspan", "use", "view"]

/-- Names of elements of mathematics, other than those that HTML has too. -/
def mathNames : List String :=
  ["abs", "and", "annotation", "annotation-xml", "apply", "approx", "arccos", "arccosh", "arccot",
   "arccoth", "arccsc", "arccsch", "arcsec", "arcsech", "arcsin", "arcsinh", "arctan", "arctanh",
   "arg", "bind", "bvar", "card", "cartesianproduct", "cbytes", "ceiling", "cerror", "ci", "cn",
   "codomain", "complexes", "compose", "condition", "conjugate", "cos", "cosh", "cot", "coth",
   "cs", "csc", "csch", "csymbol", "curl", "declare", "degree", "determinant", "diff",
   "divergence", "divide", "domain", "domainofapplication", "emptyset", "eq", "equivalent",
   "eulergamma", "exists", "exp", "exponentiale", "factorial", "factorof", "false", "floor", "fn",
   "forall", "gcd", "geq", "grad", "gt", "ident", "image", "imaginary", "imaginaryi", "implies",
   "in", "infinity", "int", "integers", "intersect", "interval", "inverse", "lambda",
   "laplacian", "lcm", "leq", "limit", "list", "ln", "log", "logbase", "lowlimit", "lt",
   "maction", "maligngroup", "malignmark", "math", "matrix", "matrixrow", "max", "mean", "median",
   "menclose", "merror", "mfenced", "mfrac", "mglyph", "mi", "min", "minus", "mlabeledtr",
   "mlongdiv", "mmultiscripts", "mn", "mo", "mode", "moment", "momentabout", "mover", "mpadded",
   "mphantom", "mprescripts", "mroot", "mrow", "ms", "mscarries", "mscarry", "msgroup", "msline",
   "mspace", "msqrt", "msrow", "mstack", "mstyle", "msub", "msubsup", "msup", "mtable", "mtd",
   "mtext", "mtr", "munder", "munderover", "naturalnumbers", "neq", "none", "not", "notanumber",
   "notin", "notprsubset", "notsubset", "or", "otherwise", "outerproduct", "partialdiff", "pi",
   "piece", "piecewise", "plus", "power", "primes", "product", "prsubset", "quotient",
   "rationals", "real", "reals", "reln", "rem", "root", "scalarproduct", "sdev", "sec", "sech",
   "selector", "semantics", "sep", "set", "setdiff", "share", "sin", "sinh", "subset", "sum",
   "tan", "tanh", "tendsto", "times", "transpose", "true", "union", "uplimit", "variance",
   "vector", "vectorproduct", "xor"]

end MarkedVerse.Html
