import SchemaScript.Request
import SchemaScript.Routine.Codec

/-! Requests in documents: objects whose `kind` tells what they ask for. -/

namespace SchemaScript

/-! ### Objects -/

def Trigger.record : Record Trigger Trigger :=
  Record.build Trigger.mk
    |>.field "name" (·.name) .string
    |>.field "table" (·.table) (.optional .string)
    |>.field "active" (·.active) .bool
    |>.field "trigger_type" (·.events) .string
    |>.field "position" (·.position) .int32
    |>.field "sql_security" (·.security) (.optional SqlSecurity.codec)
    |>.field "entry_point" (·.entryPoint) (.optional .string)
    |>.field "engine" (·.engine) (.optional .string)
    |>.field "source" (·.source) (.optional .string)
    |>.field "comment" (·.comment) (.optional .string)

def View.record : Record View View :=
  Record.build View.mk
    |>.field "name" (·.name) .string
    |>.field "columns" (·.columns) (.optional .string)
    |>.field "select" (·.select) .string
    |>.field "exists" (·.isExisting) .bool
    |>.field "comment" (·.comment) (.optional .string)

def Sequence.record : Record Sequence Sequence :=
  Record.build Sequence.mk
    |>.field "name" (·.name) .string
    |>.field "start_value" (·.start) .int64
    |>.field "increment" (·.increment) .int64
    |>.field "exists" (·.isExisting) .bool
    |>.field "comment" (·.comment) (.optional .string)

def User.record : Record User User :=
  Record.build User.mk
    |>.field "name" (·.name) .string
    |>.field "first_name" (·.firstName) (.optional .string)
    |>.field "middle_name" (·.middleName) (.optional .string)
    |>.field "last_name" (·.lastName) (.optional .string)
    |>.field "password" (·.password) (.optional .string)
    |>.field "active" (·.active) .bool
    |>.field "admin" (·.admin) .bool
    |>.field "plugin" (·.plugin) (.optional .string)
    |>.field "tags" (·.tags) (.dictionary .string)
    |>.field "comment" (·.comment) (.optional .string)

def User.title : String := "struct UserDescriptor"

def User.codec : Codec User := User.record.codec User.title

def Collation.record : Record Collation Collation :=
  Record.build Collation.mk
    |>.field "name" (·.name) .string
    |>.field "charset" (·.charset) .string
    |>.field "base_collation" (·.base) (.optional .string)
    |>.field "external" (·.external) .bool
    |>.field "pad_space" (·.padSpace) .bool
    |>.field "case_sensitive" (·.caseSensitive) .bool
    |>.field "accent_sensitive" (·.accentSensitive) .bool
    |>.field "attributes" (·.attributes) (.optional .string)

def Tablespace.record : Record Tablespace Tablespace :=
  Record.build Tablespace.mk
    |>.field "name" (·.name) .string
    |>.field "file" (·.file) .string

def Job.record : Record Job Job :=
  Record.build Job.mk
    |>.field "name" (·.name) .string
    |>.field "schedule" (·.schedule) .string
    |>.field "active" (·.active) .bool
    |>.field "start_date" (·.startDate) (.optional .timestamp)
    |>.field "end_date" (·.endDate) (.optional .timestamp)
    |>.field "job_kind" (·.kind) (.oneOf JobKind.all JobKind.name)
    |>.field "source" (·.source) .string

/-! ### Edits and row statements -/

def ObjectKind.codec : Codec ObjectKind := .oneOf ObjectKind.all ObjectKind.name

def DomainEdit.record : Record DomainEdit DomainEdit :=
  Record.build DomainEdit.mk
    |>.required "before" (·.before) Column.codec
    |>.required "after" (·.after) Column.codec

def TrackedDomain.record : Record TrackedDomain TrackedDomain :=
  Record.build TrackedDomain.mk
    |>.required "name" (·.name) .string
    |>.required "domain" (·.domain) Column.codec

def UserEdit.record : Record UserEdit UserEdit :=
  Record.build UserEdit.mk
    |>.required "before" (·.before) User.codec
    |>.required "after" (·.after) User.codec

def Insert.record : Record Insert Insert :=
  Record.build Insert.mk
    |>.required "table" (·.table) .string
    |>.required "fields" (·.fields) .string
    |>.required "values" (·.values) .string

def InsertPlaceholders.record : Record InsertPlaceholders InsertPlaceholders :=
  Record.build InsertPlaceholders.mk
    |>.required "table" (·.table) .string
    |>.required "columns" (·.columns) (.list .string)

def Update.record : Record Update Update :=
  Record.build Update.mk
    |>.required "table" (·.table) .string
    |>.required "settings" (·.settings) .string

def Select.record : Record Select Select :=
  Record.build Select.mk
    |>.required "table" (·.table) .string
    |>.extend "fields" (·.fields) .string (.defaulted "*")

def CommentRequest.record : Record CommentRequest CommentRequest :=
  Record.build CommentRequest.mk
    |>.required "object" (·.object) ObjectKind.codec
    |>.required "name" (·.name) .string
    |>.extend "text" (·.text) (.optional .string) (.omitted none)
    |>.extend "delimiter" (·.delimiter) .string (.defaulted ";")

def NameRequest.record : Record NameRequest NameRequest :=
  Record.build NameRequest.mk
    |>.required "object" (·.object) ObjectKind.codec
    |>.extend "siblings" (·.siblings) (.list .string) (.defaulted [])

/-! ### Requests -/

namespace Request

def tagged : Tagged Request where
  title := "Request"
  key := "kind"
  variants := [
    .ofRecord "create_table" Table.title Table.record createTable
      fun | createTable x => some x | _ => none,
    .ofRecord "create_domain" Column.title Column.record createDomain
      fun | createDomain x => some x | _ => none,
    .ofRecord "alter_domain" "struct variant Request::AlterDomain" DomainEdit.record alterDomain
      fun | alterDomain x => some x | _ => none,
    .ofRecord "alter_domain_tracked" "struct variant Request::AlterDomainTracked"
      TrackedDomain.record alterDomainTracked
      fun | alterDomainTracked x => some x | _ => none,
    .ofRecord "create_procedure" Procedure.title Procedure.record createProcedure
      fun | createProcedure x => some x | _ => none,
    .ofRecord "create_function" Function.title Function.record createFunction
      fun | createFunction x => some x | _ => none,
    .ofRecord "create_trigger" "struct TriggerDescriptor" Trigger.record createTrigger
      fun | createTrigger x => some x | _ => none,
    .ofRecord "create_view" "struct ViewDescriptor" View.record createView
      fun | createView x => some x | _ => none,
    .ofRecord "create_sequence" "struct SequenceDescriptor" Sequence.record createSequence
      fun | createSequence x => some x | _ => none,
    .ofRecord "create_user" User.title User.record createUser
      fun | createUser x => some x | _ => none,
    .ofRecord "alter_user" "struct variant Request::AlterUser" UserEdit.record alterUser
      fun | alterUser x => some x | _ => none,
    .ofRecord "create_collation" "struct CollationDescriptor" Collation.record createCollation
      fun | createCollation x => some x | _ => none,
    .ofRecord "create_tablespace" "struct TablespaceDescriptor" Tablespace.record createTablespace
      fun | createTablespace x => some x | _ => none,
    .ofRecord "create_job" "struct JobDescriptor" Job.record createJob
      fun | createJob x => some x | _ => none,
    .ofRecord "insert" "struct variant Request::Insert" Insert.record insert
      fun | insert x => some x | _ => none,
    .ofRecord "insert_placeholders" "struct variant Request::InsertPlaceholders"
      InsertPlaceholders.record insertPlaceholders
      fun | insertPlaceholders x => some x | _ => none,
    .ofRecord "update" "struct variant Request::Update" Update.record update
      fun | update x => some x | _ => none,
    .ofRecord "select" "struct variant Request::Select" Select.record select
      fun | select x => some x | _ => none,
    .ofRecord "comment" "struct variant Request::Comment" CommentRequest.record comment
      fun | comment x => some x | _ => none,
    .ofRecord "generate_name" "struct variant Request::GenerateName" NameRequest.record generateName
      fun | generateName x => some x | _ => none]

def codec : Codec Request := tagged.codec

end Request

end SchemaScript
