import SharedSeq.Slice.Bounds

/-!
# Calls

The operations that a running program can call, with their operands as fixed-width integers. A call
does not say what its handles are: `Call L S` has list handles of type `L` and string handles of type
`S`, and `Call.mapHandles` goes from one kind of handle to another. So the same call stands for one
over names, over handles that may be null, and over containers of a store.
-/

namespace SharedSeq

/-- A call with list handles of type `L` and string handles of type `S`. -/
inductive Call (L S : Type)
  | newList
  | newString
  | listLength (h : L)
  | stringLength (h : S)
  | pushInt (h : L) (v : Int32)
  /-- Every number but zero is true. -/
  | pushBool (h : L) (v : Int16)
  | pushList (h v : L)
  | pushString (h : L) (v : S)
  | extendList (h v : L)
  | concatLists (a b : L)
  | concatStrings (a b : S)
  | getInt (h : L) (pos : Int32)
  | getBool (h : L) (pos : Int32)
  | getList (h : L) (pos : Int32)
  | getString (h : L) (pos : Int32)
  | getChar (h : S) (pos : Int32)
  | sliceList (h : L) (start stop step : Int32)
  | sliceString (h : S) (start stop step : Int32)
  | appendByte (h : S) (ch : Int8)
  | printInt (v : Int32)
  | printBool (v : Int16)
  | printList (h : L)
  | printString (h : S)
  | hasError
  /-- The pending message, which is then gone, without NUL characters. -/
  | takeError
  /-- The pending message as it is, which is then gone. -/
  | takeRawError
  | clearError
  | setError (message : String)
  | config
  | prepare
  /-- Starts logging and tells whether it had not begun before. -/
  | startLogging
  deriving DecidableEq, Repr

namespace Call

variable {L S L' S' : Type}

/-- The operation as messages name it. -/
def operation : Call L S → String
  | newList => "new_list"
  | newString => "new_string"
  | listLength _ => "list_length"
  | stringLength _ => "string_length"
  | pushInt .. => "push_int"
  | pushBool .. => "push_bool"
  | pushList .. => "push_list"
  | pushString .. => "push_string"
  | extendList .. => "extend_list"
  | concatLists .. => "concat_lists"
  | concatStrings .. => "concat_strings"
  | getInt .. => "get_int"
  | getBool .. => "get_bool"
  | getList .. => "get_list"
  | getString .. => "get_string"
  | getChar .. => "get_char"
  | sliceList .. => "slice_list"
  | sliceString .. => "slice_string"
  | appendByte .. => "string_insert"
  | printInt _ => "print_int"
  | printBool _ => "print_bool"
  | printList _ => "print_list"
  | printString _ => "print_string"
  | hasError => "has_error"
  | takeError => "take_error"
  | takeRawError => "take_runtime_error"
  | clearError => "clear_error"
  | setError _ => "set_runtime_error"
  | config => "config"
  | prepare => "runtime_init"
  | startLogging => "logging_init"

/-- Replaces the handles, the first operand first. -/
def mapHandles {ε : Type} (list : L → Except ε L') (string : S → Except ε S') :
    Call L S → Except ε (Call L' S')
  | newList => return newList
  | newString => return newString
  | listLength h => return listLength (← list h)
  | stringLength h => return stringLength (← string h)
  | pushInt h v => return pushInt (← list h) v
  | pushBool h v => return pushBool (← list h) v
  | pushList h v => return pushList (← list h) (← list v)
  | pushString h v => return pushString (← list h) (← string v)
  | extendList h v => return extendList (← list h) (← list v)
  | concatLists a b => return concatLists (← list a) (← list b)
  | concatStrings a b => return concatStrings (← string a) (← string b)
  | getInt h pos => return getInt (← list h) pos
  | getBool h pos => return getBool (← list h) pos
  | getList h pos => return getList (← list h) pos
  | getString h pos => return getString (← list h) pos
  | getChar h pos => return getChar (← string h) pos
  | sliceList h start stop step => return sliceList (← list h) start stop step
  | sliceString h start stop step => return sliceString (← string h) start stop step
  | appendByte h ch => return appendByte (← string h) ch
  | printInt v => return printInt v
  | printBool v => return printBool v
  | printList h => return printList (← list h)
  | printString h => return printString (← string h)
  | hasError => return hasError
  | takeError => return takeError
  | takeRawError => return takeRawError
  | clearError => return clearError
  | setError message => return setError message
  | config => return config
  | prepare => return prepare
  | startLogging => return startLogging

end Call

end SharedSeq
