import TlvCodec.Log.Layout
import TlvCodec.Toml.Document

namespace TlvCodec.Tool

inductive InputFormat where
  | hex
  | binary
deriving DecidableEq, Repr

namespace InputFormat

def name : InputFormat → String
  | hex => "hex"
  | binary => "binary"

def all : List InputFormat := [hex, binary]

def ofName? (s : String) : Option InputFormat := all.find? fun x => x.name = s

end InputFormat

structure Logging where
  enabled : Bool := true
  style : Log.Style := .full
  colors : Bool := false
  showThreadId : Bool := false
  showSource : Bool := false
deriving DecidableEq, Repr

structure Decoding where
  inputFormat : InputFormat := .hex
  pretty : Bool := true
deriving DecidableEq, Repr

structure Config where
  logging : Logging := {}
  decode : Decoding := {}
deriving DecidableEq, Repr

open Toml

/-- The values of the known keys of a table, which has no other. -/
def namedSlots? (keys : List String) : Value → Option (List (Option Value))
  | .table entries =>
    if entries.all fun e => keys.contains e.1 then
      some (keys.map fun key => entries.lookup key)
    else none
  | _ => none

/-- As `namedSlots?`, or from an array in the order of the keys. -/
def slots? (keys : List String) : Value → Option (List (Option Value))
  | .array items => some ((List.range keys.length).map fun i => items[i]?)
  | v => namedSlots? keys v

def slot? (read : Value → Option α) (fallback : α) : Option Value → Option α
  | none => some fallback
  | some v => read v

/-- A choice by its name, or by a table with that name as its key. -/
def choice? (ofName? : String → Option α) (isNothing : Value → Bool) : Value → Option α
  | .string s => ofName? s
  | .table [(s, v)] => if isNothing v then ofName? s else none
  | _ => none

def isEmptyTable : Value → Bool
  | .table [] => true
  | _ => false

def isEmptyContainer : Value → Bool
  | .table [] => true
  | .array [] => true
  | _ => false

def Logging.ofToml? (v : Value) : Option Logging := do
  match ← namedSlots? ["enabled", "style", "colors", "show_thread_id", "show_source"] v with
  | [enabled, style, colors, showThreadId, showSource] =>
    return {
      enabled := ← slot? Value.bool? true enabled
      style := ← slot? (choice? Log.Style.ofName? isEmptyTable) .full style
      colors := ← slot? Value.bool? false colors
      showThreadId := ← slot? Value.bool? false showThreadId
      showSource := ← slot? Value.bool? false showSource }
  | _ => none

def Decoding.ofToml? (v : Value) : Option Decoding := do
  match ← slots? ["input_format", "pretty"] v with
  | [inputFormat, pretty] =>
    return {
      inputFormat := ← slot? (choice? InputFormat.ofName? isEmptyContainer) .hex inputFormat
      pretty := ← slot? Value.bool? true pretty }
  | _ => none

namespace Config

def loggingOfToml? (v : Value) : Option Logging := do
  match ← slots? ["stdout"] v with
  | [stdout] => slot? Logging.ofToml? {} stdout
  | _ => none

def ofToml? (v : Value) : Option Config := do
  match ← namedSlots? ["logging", "decode"] v with
  | [logging, decode] =>
    return {
      logging := ← slot? loggingOfToml? {} logging
      decode := ← slot? Decoding.ofToml? {} decode }
  | _ => none

def parse? (text : String) : Option Config := do ofToml? (← Toml.parse? text.toList)

end Config

end TlvCodec.Tool
