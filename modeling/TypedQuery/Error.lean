-- SUMMARY: The causes of failure, their classification and their wording.
import TypedQuery.Model.Category
import TypedQuery.Schema.TypeDef
import TypedQuery.Sdl.Position
import TypedQuery.Text.Quoted

/-!
# Errors

Every way in which reading settings, loading a schema, modelling its types or writing a file can fail.
`Error.message` is the only place that words a failure.
-/
namespace TypedQuery

/-! ## Causes -/

/-- What is wrong with the settings of a run, or with a request header. -/
inductive SettingsFault where
  | emptySuffix
  | visibleIndent (indent : String)
  | emptyIdField
  | blankScalarTarget (scalar : String)
  | headerName (name : String)
  | headerValue (name : String)
  deriving DecidableEq, Repr

/-- Why an operation on files failed. -/
inductive FileFault where
  | notFound
  | alreadyExists
  | notADirectory
  | isADirectory
  | nameTooLong
  | nulCharacter
  | notText
  | other (reason : String)
  deriving DecidableEq, Repr

/-- Why an address cannot be read. -/
inductive AddressFault where
  | noScheme
  | emptyHost
  | invalidPort
  | invalidIPv6
  | invalidIPv4
  | invalidDomain
  | invalidCharacter
  deriving DecidableEq, Repr

/-- Why a JSON text cannot be read: it ends early, it is malformed, or a value is of the wrong type. -/
inductive JsonFault where
  | ended
  | malformed
  | mistyped
  deriving DecidableEq, Repr

/-- Which rule on selectable types is broken. -/
inductive TypeFault where
  | noTarget (field : String)
  | incompleteConnection (field : String)
  | declaredTwice (field : String)
  | wrongCategory (field : String) (required found : FieldCategory)
  | missingField (field : String) (required : FieldCategory)
  | superTypesOn (category : TypeCategory)
  | rootNotObject (found : TypeKind)
  | notRedeclared (field : String)
  deriving DecidableEq, Repr

/-- Where a name is used. -/
inductive Mention where
  | extension
  | schemaDefinition
  | field (owner field : String)
  | argument (owner field argument : String)
  | construction
  | lookup
  | enumRendering
  | inputRendering
  | file (path : String)
  deriving DecidableEq, Repr

/-- A failure. -/
inductive Error where
  | settings (fault : SettingsFault)
  | file (fault : FileFault)
  | http
  | address (fault : AddressFault)
  | json (fault : JsonFault)
  | syntaxError (position : Sdl.Position)
  | httpStatus (status : Nat) (body : String)
  | invalidType (type : String) (fault : TypeFault)
  | unknownType (type : String) (mention : Mention)
  | invalidExtension (type : String) (found : TypeKind)
  | unknownScalar (name : String)
  | importsClosed
  deriving DecidableEq, Repr

/-! ## Classification -/

/-- The schema is at fault. -/
def Error.isAuthoring : Error → Bool
  | invalidType .. | unknownType .. | invalidExtension .. | syntaxError _ => true
  | _ => false

/-- The generator, or its settings, cannot express the schema. -/
def Error.isDefect : Error → Bool
  | importsClosed | unknownScalar _ => true
  | _ => false

/-! ## Wording -/

def SettingsFault.message : SettingsFault → String
  | emptySuffix => "fetcher suffix cannot be empty"
  | visibleIndent indent => "indent must be whitespace only, got " ++ Text.quote indent
  | emptyIdField => "id field name cannot be empty"
  | blankScalarTarget scalar => "scalar type map entry for " ++ scalar ++ " has an empty target type"
  | headerName name => "invalid header name " ++ Text.quote name ++ ": invalid HTTP header name"
  | headerValue name => "invalid value for header " ++ name ++ ": failed to parse header value"

def FileFault.message : FileFault → String
  | notFound => "No such file or directory (os error 2)"
  | alreadyExists => "File exists (os error 17)"
  | notADirectory => "Not a directory (os error 20)"
  | isADirectory => "Is a directory (os error 21)"
  | nameTooLong => "File name too long (os error 36)"
  | nulCharacter => "file name contained an unexpected NUL byte"
  | notText => "stream did not contain valid UTF-8"
  | other reason => reason

def AddressFault.message : AddressFault → String
  | noScheme => "relative URL without a base"
  | emptyHost => "empty host"
  | invalidPort => "invalid port number"
  | invalidIPv6 => "invalid IPv6 address"
  | invalidIPv4 => "invalid IPv4 address"
  | invalidDomain => "invalid international domain name"
  | invalidCharacter => "invalid domain character"

def TypeFault.message : TypeFault → String
  | noTarget field => "association field `" ++ field ++ "` has no target type"
  | incompleteConnection field =>
    "connection field `" ++ field ++ "` needs connection and edge type names"
  | declaredTwice field => "field `" ++ field ++ "` is declared twice"
  | wrongCategory field required found =>
    "field `" ++ field ++ "` must be " ++ required.word ++ ", found " ++ found.word
  | missingField field required => "missing " ++ required.word ++ " field `" ++ field ++ "`"
  | superTypesOn category => "only OBJECT types may declare super types, found " ++ category.word
  | rootNotObject found => "root operation type must be an object type, found " ++ found.keyword
  | notRedeclared field => "inherited field `" ++ field ++ "` is not redeclared"

def Mention.phrase : Mention → String
  | extension => "type extension"
  | schemaDefinition => "schema definition"
  | field owner name => "field " ++ owner ++ "." ++ name
  | argument owner fieldName name =>
    "argument " ++ owner ++ "." ++ fieldName ++ "(" ++ name ++ ")"
  | construction => "fetchable type construction"
  | lookup => "fetchable type lookup"
  | enumRendering => "enum rendering"
  | inputRendering => "input rendering"
  | file path => path

/-- The text of a failure. -/
def Error.message : Error → String
  | settings fault => "config error: " ++ fault.message
  | file fault => "io error: " ++ fault.message
  | http => "http error"
  | address fault => "url error: " ++ fault.message
  | json _ => "json error"
  | syntaxError position =>
    "schema parse error: Parse error at " ++ toString position.line ++ ":" ++
      toString position.column
  | httpStatus status _ => "schema http error: " ++ toString status
  | invalidType type fault => "invalid fetchable type '" ++ type ++ "': " ++ fault.message
  | unknownType type mention => "unknown type '" ++ type ++ "' referenced by " ++ mention.phrase
  | invalidExtension type found =>
    "invalid extension of '" ++ type ++ "': " ++ found.keyword ++
      " cannot be extended by this extension kind"
  | unknownScalar name => "unknown scalar type '" ++ name ++ "' (add it to the scalar type map)"
  | importsClosed => "writer's importing has been terminated"

end TypedQuery
