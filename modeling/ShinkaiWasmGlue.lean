import ShinkaiWasmGlue.JsValue
import ShinkaiWasmGlue.Heap
import ShinkaiWasmGlue.FreeList
import ShinkaiWasmGlue.BorrowStack
import ShinkaiWasmGlue.Session
import ShinkaiWasmGlue.Utf16
import ShinkaiWasmGlue.Utf8
import ShinkaiWasmGlue.NumberString
import ShinkaiWasmGlue.PassString
import ShinkaiWasmGlue.DebugString
import ShinkaiWasmGlue.StringImports
import ShinkaiWasmGlue.Exports
import ShinkaiWasmGlue.Callbacks
import ShinkaiWasmGlue.Ownership
import ShinkaiWasmGlue.BigInt
import ShinkaiWasmGlue.PassArgs
