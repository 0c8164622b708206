import BundleFinish.Build.Message
import BundleFinish.JsonText.Record

/-! # Build results as JSON

The written form of a build result. A result may leave out its warnings, and a message its
location. -/

namespace BundleFinish.Build

/-- The largest line or column of a location. -/
def maxPlace : Nat := 4294967295

/-- The written form of a location. -/
def Location.schema : Schema Location :=
  .record "Location" { file := "", line := 0, column := 0 } <|
    .field "file" .always (.text "a string") (·.file) (fun place file => { place with file }) <|
    .field "line" .always (.natural maxPlace "u32") (·.line)
      (fun place line => { place with line }) <|
    .field "column" .always (.natural maxPlace "u32") (·.column)
      (fun place column => { place with column })
    .nil

/-- The written form of a message. -/
def Message.schema : Schema Message :=
  .record "BuildMessage" { id := "", stage := "", text := "", location := none } <|
    .field "id" .always (.text "a string") (·.id) (fun message id => { message with id }) <|
    .field "plugin_name" .always (.text "a string") (·.stage)
      (fun message stage => { message with stage }) <|
    .field "text" .always (.text "a string") (·.text) (fun message text => { message with text }) <|
    .field "location" .inList (.optional Location.schema) (·.location)
      (fun message location => { message with location })
    .nil

/-- The written form of a result. -/
def Result.schema : Schema Result :=
  .record "BuildResult" .empty <|
    .field "errors" .always (.list Message.schema) (·.errors)
      (fun result errors => { result with errors }) <|
    .field "warnings" .never (.list Message.schema) (·.warnings)
      (fun result warnings => { result with warnings })
    .nil

namespace Result

/-- Read a result. -/
def ofJson (text : String) : Except JsonText.Failure Result := schema.ofJson text

/-- Write a result. -/
def toJson (result : Result) : String := schema.toJson result

end Result

end BundleFinish.Build
