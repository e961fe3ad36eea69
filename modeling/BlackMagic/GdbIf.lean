import BlackMagic.Bytes

/-! The transmit side of the connection to GDB (`gdb_if.c`), with a connected client: the
characters of a packet are collected in a buffer that is given to `send` when a flush is
asked for or when it is full. -/

namespace BlackMagic.GdbIf

/-- `sizeof(buf)`. -/
def bufferSize : Nat := 2048

structure Connection where
  buf : Buffer
  bufsize : Nat
  /-- The data given to `send`. -/
  sent : List Byte
  /-- The indices at which the buffer was written or read. -/
  accesses : List Nat

def Connection.opened (buf : Buffer) : Connection := ⟨buf, 0, [], []⟩

def gdbIfPutchar (c : Byte) (flush : Bool) (conn : Connection) : Connection :=
  let buf := conn.buf.set conn.bufsize c
  let bufsize := conn.bufsize + 1
  let accesses := conn.accesses ++ [conn.bufsize]
  if flush ∨ bufsize = bufferSize then
    let buf := buf.set bufsize 0#8
    { buf := buf, bufsize := 0, sent := conn.sent ++ buf.take bufsize
      accesses := accesses ++ [bufsize] ++ List.range bufsize }
  else { conn with buf := buf, bufsize := bufsize, accesses := accesses }

/-- A sequence of calls. -/
def putchars (calls : List (Byte × Bool)) (conn : Connection) : Connection :=
  calls.foldl (fun conn call => gdbIfPutchar call.1 call.2 conn) conn

end BlackMagic.GdbIf
