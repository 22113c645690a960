import GoTasks.Config.Basic
import GoTasks.Toml.Decode

/-!
# The schema of configuration files

A configuration file has four sections, and each section a fixed set of fields. This module
says which field is decoded how and where its value goes.
-/

namespace GoTasks.Config

open Toml

/-- Decode a path, which is written as a string. -/
def decodePath : Decoder Path := fun place node =>
  Path.ofText <$> Decoder.textAs .path place node

def decodeText : Decoder String :=
  Decoder.textAs .text

def layoutRecord : Record Layout where
  name := "ProjectConfig"
  fields :=
    [.of "name" decodeText fun v c => { c with name := v },
     .of "entry" decodePath fun v c => { c with entry? := some v },
     .of "output_dir" decodePath fun v c => { c with outputDirectory := v },
     .of "config_dir" decodePath fun v c => { c with configDirectory := v }]
  default := Layout.default

def toolsRecord : Record Tools where
  name := "ToolsConfig"
  fields :=
    [.of "go" decodeText fun v c => { c with go := v },
     .of "lint" (.list decodeText) fun v c => { c with lint := v }]
  default := Tools.default

def testingRecord : Record Testing where
  name := "TestConfig"
  fields :=
    [.of "timeout_secs" Decoder.unsigned fun v c => { c with timeoutSeconds := v },
     .of "packages" (.list decodeText) fun v c => { c with packages := v },
     .of "race" Decoder.boolean fun v c => { c with race := v }]
  default := Testing.default

def linkingRecord : Record Linking where
  name := "BuildConfig"
  fields :=
    [.of "strip" Decoder.boolean fun v c => { c with strip := v },
     .of "stamp_version" Decoder.boolean fun v c => { c with stampVersion := v }]
  default := Linking.default

/-- The whole file. -/
def record : Record Config where
  name := "GomkConfig"
  fields :=
    [.of "project" layoutRecord.decode fun v c => { c with layout := v },
     .of "tools" toolsRecord.decode fun v c => { c with tools := v },
     .of "test" testingRecord.decode fun v c => { c with testing := v },
     .of "build" linkingRecord.decode fun v c => { c with linking := v }]
  default := Config.default

/-- The configuration that a document describes. -/
def ofDocument (document : Node) : Except Mismatch Config :=
  record.decode ⟨0, 0⟩ document

end GoTasks.Config
