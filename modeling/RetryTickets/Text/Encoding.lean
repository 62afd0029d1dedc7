-- Texts as bytes, and the mark that hexadecimal texts may have in front.
import RetryTickets.Bytes

namespace RetryTickets.Text

/-- The bytes of a text, from one to four for each character. -/
def toBytes (text : List Char) : Bytes := text.flatMap String.utf8EncodeChar

/-- A text without one mark in front. -/
def withoutMark : List Char → List Char
  | '0' :: 'x' :: rest => rest
  | text => text

/-- A text without any marks in front. -/
def withoutMarks : List Char → List Char
  | '0' :: 'x' :: rest => withoutMarks rest
  | text => text

end RetryTickets.Text
