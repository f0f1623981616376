import OpcodeAtlas.Text.Basic

namespace OpcodeAtlas.Markup.Tags

/-- Elements that never have content. -/
def void : List Text :=
  ["area", "base", "basefont", "bgsound", "br", "col", "embed", "hr", "img", "input", "keygen",
   "link", "meta", "param", "source", "track", "wbr"]

/-- Void elements that stand for nothing visible in their place. -/
def metadata : List Text :=
  ["base", "basefont", "bgsound", "link", "meta", "param", "source", "track"]

/-- Elements that end an open paragraph before they start. -/
def block : List Text :=
  ["address", "article", "aside", "blockquote", "center", "details", "dialog", "dir", "div", "dl",
   "fieldset", "figcaption", "figure", "footer", "header", "hgroup", "listing", "main", "menu",
   "nav", "ol", "pre", "search", "section", "summary", "ul"]

def heading : List Text :=
  ["h1", "h2", "h3", "h4", "h5", "h6"]

/-- Elements whose effect goes on behind an end tag that comes too early. -/
def formatting : List Text :=
  ["a", "b", "big", "code", "em", "font", "i", "nobr", "s", "small", "strike", "strong", "tt", "u"]

/-- Elements that keep the formatting around them out. -/
def enclosing : List Text :=
  ["applet", "marquee", "object"]

def cell : List Text :=
  ["td", "th"]

def rowGroup : List Text :=
  ["tbody", "tfoot", "thead"]

/-- The tags that have a meaning inside tables alone, the table's own apart. -/
def tablePart : List Text :=
  ["caption", "col", "colgroup", "tbody", "td", "tfoot", "th", "thead", "tr"]

/-- The parts of a table in which no text of their own can stand. -/
def tableFrame : List Text :=
  ["table", "tbody", "tfoot", "thead", "tr"]

/-- The tags around the content of a page, which every page is taken to have. -/
def pageFrame : List Text :=
  ["html", "head", "body", "frameset", "frame"]

/-- Elements that may be left open: the end of an element around them ends them too. -/
def impliedEnd : List Text :=
  ["dd", "dt", "li", "optgroup", "option", "p", "rb", "rp", "rt", "rtc"]

/-- Elements that an end tag cannot reach across. -/
def scope : List Text :=
  ["applet", "caption", "marquee", "object", "table", "td", "template", "th"]

def buttonScope : List Text :=
  "button" :: scope

def listScope : List Text :=
  "ol" :: "ul" :: scope

def tableScope : List Text :=
  ["table", "template"]

/-- Further elements with rules of their own. -/
def singular : List Text :=
  ["button", "dd", "dt", "form", "iframe", "image", "li", "noembed", "noframes", "noscript", "p",
   "plaintext", "script", "select", "style", "table", "template", "textarea", "title", "xmp"]

/-- Elements beyond which no stray end tag takes effect. -/
def special : List Text :=
  void ++ block ++ heading ++ enclosing ++ tablePart ++ singular

/-- Elements whose text is no part of the text around them. -/
def aside : List Text :=
  ["rp", "rt", "script", "style", "template"]

end OpcodeAtlas.Markup.Tags
