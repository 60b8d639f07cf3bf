/-!
# Entities of a program

What an encoded signature describes: names with their scopes and arguments, and the
types that parameters are declared with.  One type of nodes serves for both, because a
type can be a name, an argument of a name can be a type, and an encoded signature
refers back to either in the same way.

A name is more than its words.  It may be met as a component of a path, as the whole of
a path, as a name of its own or as the type of that name, and each of these is a node,
because each can be referred to and counts as a level of nesting.
-/

namespace OperandSearch
namespace SymbolName

/-- The qualifiers of a type or of a member function. -/
structure Qualifiers where
  isConst : Bool := false
  isVolatile : Bool := false
  isRestrict : Bool := false
  deriving DecidableEq, Repr

/-- Whether there are no qualifiers. -/
def Qualifiers.isEmpty (q : Qualifiers) : Bool :=
  !q.isConst && !q.isVolatile && !q.isRestrict

/-- The words of qualifiers, in the order in which they are written. -/
def Qualifiers.words (q : Qualifiers) : List String :=
  (if q.isConst then ["const"] else []) ++ (if q.isVolatile then ["volatile"] else []) ++
    (if q.isRestrict then ["restrict"] else [])

/-- The kind of object a member function can be called for. -/
inductive ObjectKind where
  | named
  | temporary
  deriving DecidableEq, Repr

/-- The sign of a kind of object. -/
def ObjectKind.sign : ObjectKind → String
  | named => "&"
  | temporary => "&&"

/-- A name that every program knows. -/
inductive WellKnown where
  | standard
  | allocator
  | basicString
  | string
  | inputStream
  | outputStream
  | stream
  deriving DecidableEq, Repr

namespace WellKnown

/-- The text of a name that every program knows. -/
def text : WellKnown → String
  | standard => "std"
  | allocator => "std::allocator"
  | basicString => "std::basic_string"
  | string => "std::string"
  | inputStream => "std::basic_istream<char, std::char_traits<char> >"
  | outputStream => "std::ostream"
  | stream => "std::basic_iostream<char, std::char_traits<char> >"

/-- How its own constructor is called, if it has one. -/
def leaf? : WellKnown → Option String
  | standard => none
  | allocator => some "allocator"
  | basicString => some "basic_string"
  | string => some "string"
  | inputStream => some "basic_istream"
  | outputStream => some "ostream"
  | stream => some "basic_iostream"

end WellKnown

mutual

/-- A name or a type. -/
inductive Entity where
  /-- A word that a program declares. -/
  | source (name : List Char)
  | operator (symbol : List Char)
  | conversion (type : Entity)
  /-- A constructor, or a destructor if `ends` is set. -/
  | lifetime (ends : Bool)
  | wellKnown (known : WellKnown)
  /-- A word that stands in no scope. -/
  | free (word : Entity)
  /-- A word in the standard scope. -/
  | standard (word : Entity)
  /-- A word of one of the two kinds above with arguments behind it. -/
  | template (name : Entity)
  /-- The outermost component of a path. -/
  | outermost (word : Entity)
  /-- A component inside another one. -/
  | member (scope word : Entity)
  /-- A path up to the arguments of its last component. -/
  | templated (scope : Entity) (args : List Argument)
  /-- A whole path, with what stands behind the parameters of a member function. -/
  | path (last : Entity) (qualifiers : Qualifiers) (object? : Option ObjectKind)
  /-- A whole name without arguments of its own. -/
  | plain (name : Entity)
  /-- A whole name with arguments of its own. -/
  | applied (head : Entity) (args : List Argument)
  /-- The type of a name. -/
  | declared (name : Entity)
  /-- A type that was referred to, with arguments. -/
  | appliedType (head : Entity) (args : List Argument)
  | builtin (name : List Char)
  | pointer (type : Entity)
  | reference (type : Entity)
  | moveReference (type : Entity)
  | qualified (qualifiers : Qualifiers) (type : Entity)
  /-- A function, with what stands behind the parameters of a member function. -/
  | function (result : Entity) (params : List Entity) (qualifiers : Qualifiers)
      (object? : Option ObjectKind)
  /-- An array; the size may be left open. -/
  | array (size : List Char) (element : Entity)

/-- An argument of a name. -/
inductive Argument where
  | type (type : Entity)
  /-- A constant of a type, as its digits are encoded. -/
  | constant (type : Entity) (digits : List Char)
  | pack (args : List Argument)

end

namespace Entity

/-- Whether a parameter stands for having none. -/
def isVoid : Entity → Bool
  | builtin name => name == "void".toList
  | _ => false

/-- Whether a type is an array. -/
def isArray : Entity → Bool
  | array _ _ => true
  | _ => false

/-- The anonymous name spaces of a file, which compilers name in three ways. -/
def isAnonymous (name : List Char) : Bool :=
  "_GLOBAL_".toList.isPrefixOf name &&
    match name.drop 8 with
    | mark :: 'N' :: _ => mark == '.' || mark == '_' || mark == '$'
    | _ => false

/-- The text of a word that a program declares. -/
def sourceText (name : List Char) : List Char :=
  if isAnonymous name then "(anonymous namespace)".toList else name

/-- What the constructors of an entity are called: its last word, or where that is no
declared one, the one in front of it. -/
def leaf? : Entity → Option (List Char)
  | source name => some (sourceText name)
  | wellKnown known => known.leaf?.map String.toList
  | free word => leaf? word
  | standard word => leaf? word
  | template name => leaf? name
  | outermost word => leaf? word
  | member scope word => (leaf? word).or (leaf? scope)
  | templated scope _ => leaf? scope
  | path last _ _ => leaf? last
  | plain name => leaf? name
  | applied head _ => leaf? head
  | declared name => leaf? name
  | _ => none

/-- Whether a name has arguments of its own. -/
def isApplied : Entity → Bool
  | applied _ _ => true
  | plain (path (templated _ _) _ _) => true
  | _ => false

/-- Whether a word makes or ends an object or names its own result, and whether a path
ends with such a word. -/
def isResultless : Entity → Bool
  | lifetime _ => true
  | conversion _ => true
  | free word => isResultless word
  | standard word => isResultless word
  | outermost word => isResultless word
  | member _ word => isResultless word
  | templated scope _ => isResultless scope
  | path last _ _ => isResultless last
  | plain name => isResultless name
  | _ => false

/-- Whether a path may end with an entity: it is a component, not a type or a name that was
referred to. -/
def isComponent : Entity → Bool
  | outermost _ => true
  | member _ _ => true
  | templated _ _ => true
  | _ => false

end Entity
end SymbolName
end OperandSearch
