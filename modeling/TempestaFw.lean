import TempestaFw.SockClnt.Registry
import TempestaFw.SockClnt.Listeners
import TempestaFw.SockClnt.Runs
import TempestaFw.SockClnt.Hooks
import TempestaFw.ParserTest.Split
import TempestaFw.ParserTest.DoSplit
import TempestaFw.ParserTest.H2Builder
import TempestaFw.ParserTest.StringSplit
import TempestaFw.ParserTest.Driver
import TempestaFw.ParserTest.Suite
import TempestaFw.SockClnt.Refinement
import TempestaFw.SockClnt.Custody
import TempestaFw.ParserTest.Reads
import TempestaFw.ParserTest.Oracle
import TempestaFw.ParserTest.Isolation
