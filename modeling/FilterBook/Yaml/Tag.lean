/-!
Tags in full. A tag is a row of bytes and not a text: it may be spelled byte by byte, and then its
bytes need not be a text at all. Only a tag that is a text can be one of the document's own.
-/

namespace FilterBook.Yaml

structure Tag where
  bytes : List UInt8
deriving DecidableEq, Repr

namespace Tag

/-- The tag that bytes spell. A zero byte ends it. -/
def ofBytes (bytes : List UInt8) : Tag :=
  ⟨bytes.takeWhile (· != 0)⟩

def ofText (text : String) : Tag :=
  ofBytes text.toUTF8.toList

def isEmpty (t : Tag) : Bool :=
  t.bytes.isEmpty

/-- The tag that a handle's tag and what follows the handle make. -/
def append (stem suffix : Tag) : Tag :=
  ⟨stem.bytes ++ suffix.bytes⟩

/-- An exclamation mark alone. -/
def mark : Tag :=
  ofText "!"

/-- Whether the tag starts with an exclamation mark. -/
def isMarked (t : Tag) : Bool :=
  t.bytes.head? == some '!'.toUInt8

/-- Whether the bytes are a text in UTF-8. -/
def isText (t : Tag) : Bool :=
  (String.fromUTF8? ⟨t.bytes.toArray⟩).isSome

/-- Whether the tag is one of the document's own. -/
def isLocal (t : Tag) : Bool :=
  t.isMarked && t.isText

/-- The stem of the tags that all documents share. -/
def common : Tag :=
  ofText "tag:yaml.org,2002:"

def null : Tag :=
  common.append (ofText "null")

def bool : Tag :=
  common.append (ofText "bool")

def int : Tag :=
  common.append (ofText "int")

def float : Tag :=
  common.append (ofText "float")

end Tag

end FilterBook.Yaml
