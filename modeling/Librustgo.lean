import Librustgo.Common.Bytes
import Librustgo.Api.AccessList
import Librustgo.Api.Session
import Librustgo.Api.Transaction
import Librustgo.Api.SeedServer
import Librustgo.Demo.Connector
import Librustgo.Types.Ibc
